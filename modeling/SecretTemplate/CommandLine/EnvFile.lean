import SecretTemplate.CommandLine.Environment
import SecretTemplate.Text.Letters
import SecretTemplate.Text.Utf8

namespace SecretTemplate.CommandLine.EnvFile

open Text.Utf8 (Bytes)

inductive Place
  | bare
  | blank
  | escaped
  | single
  | singleEscaped
  | double
  | doubleEscaped
  deriving DecidableEq, Repr

def Place.ofBare (c : Char) : Place :=
  if c = '\\' then .escaped else if c = '\x22' then .double else if c = '\x27' then .single else .bare

def Place.next : Place → Char → Place
  | bare, c => if Text.isBlank c && c != '\n' && c != '\r' then .blank else .ofBare c
  | blank, c => .ofBare c
  | escaped, _ => .bare
  | single, c => if c = '\\' then .singleEscaped else if c = '\x27' then .bare else .single
  | singleEscaped, _ => .single
  | double, c => if c = '\\' then .doubleEscaped else if c = '\x22' then .bare else .double
  | doubleEscaped, _ => .double

def scan (place : Place) : List Char → List Char × Option Place
  | [] => ([], some place)
  | c :: cs =>
    if place = .blank && c = '#' then ([], none)
    else
      let (kept, place) := scan (place.next c) cs
      (c :: kept, place)

def isComment (cs : List Char) : Bool := (cs.dropWhile Text.isBlank).head? == some '#'

def withoutEnd (cs : List Char) : List Char :=
  match cs.reverse with
  | '\n' :: '\r' :: rest => rest.reverse
  | '\n' :: rest => rest.reverse
  | _ => cs

def lines (bytes : Bytes) : List (Option (List Char)) :=
  let rec cut (line : Bytes) : Bytes → List Bytes
    | [] => if line.isEmpty then [] else [line.reverse]
    | b :: bs => if b = 0x0A then (b :: line).reverse :: cut [] bs else cut (b :: line) bs
  (cut [] bytes).map fun line => (Text.Utf8.decode? line).map String.toList

inductive Mode
  | plain
  | escaped
  | single
  | variable (name : List Char)
  | braced (name : List Char)
  | ended
  deriving DecidableEq, Repr

structure Value where
  text : List Char := []
  inDouble : Bool := false
  mode : Mode := .plain
  deriving DecidableEq, Repr

namespace Value

def push (v : Value) (c : Char) : Value := { v with text := v.text ++ [c], mode := .plain }

def substitute (env : Environment) (name : List Char) (v : Value) : Value :=
  { v with text := v.text ++ ((env.get? (.ofList name)).getD "").toList, mode := .plain }

def unescape? (c : Char) : Option Char :=
  if c = 'n' then some '\n' else if ['\\', '\x27', '\x22', '$', ' '].contains c then some c else none

def plain (v : Value) (c : Char) : Value :=
  if c = '$' then { v with mode := .variable [] }
  else if c = '\\' then { v with mode := .escaped }
  else if c = '\x22' then { v with inDouble := !v.inDouble }
  else if v.inDouble then v.push c
  else if c = '\x27' then { v with mode := .single }
  else if c = ' ' || c = '\t' then { v with mode := .ended }
  else v.push c

def read? (env : Environment) (v : Value) : List Char → Option Value
  | [] => some v
  | c :: cs =>
    match v.mode with
    | .ended => if c = ' ' || c = '\t' then read? env v cs else if c = '#' then some v else none
    | .escaped =>
      match unescape? c with
      | some c => read? env (v.push c) cs
      | none => none
    | .single => read? env (if c = '\x27' then { v with mode := .plain } else { v.push c with mode := .single }) cs
    | .variable name =>
      if Text.isLetterOrDigit c then read? env { v with mode := .variable (name ++ [c]) } cs
      else if c = '{' && name.isEmpty then read? env { v with mode := .braced [] } cs
      else
        let v := v.substitute env name
        read? env (if c = '$' then { v with mode := .variable [] } else v.push c) cs
    | .braced name =>
      read? env (if c = '}' then v.substitute env name else { v with mode := .braced (name ++ [c]) }) cs
    | .plain => read? env (v.plain c) cs

def finish? (env : Environment) (v : Value) : Option String :=
  if v.inDouble then none
  else
    match v.mode with
    | .single | .braced _ => none
    | .variable name => some (.ofList (v.substitute env name).text)
    | _ => some (.ofList v.text)

end Value

def value? (env : Environment) (cs : List Char) : Option String :=
  (Value.read? env {} cs).bind (Value.finish? env)

def isKeyStart (c : Char) : Bool := c.isAlpha || c == '_'

def isKeyChar (c : Char) : Bool := c.isAlphanum || c == '_' || c == '.'

def key? (cs : List Char) : Option (String × List Char) :=
  if cs.head?.any isKeyStart then
    some (.ofList (cs.takeWhile isKeyChar), (cs.dropWhile isKeyChar).dropWhile Text.isBlank)
  else none

def afterEquals? : List Char → Option (List Char)
  | '=' :: rest => some (rest.dropWhile Text.isBlank)
  | _ => none

def assignment? (cs : List Char) : Option (String × List Char) := do
  let (key, rest) ← key? cs
  match afterEquals? rest with
  | some value => some (key, value)
  | none =>
    if key = "export" then
      let (key, rest) ← key? rest
      return (key, ← afterEquals? rest)
    else none

def entry? (env : Environment) (line : List Char) : Option (Option (String × String)) :=
  let cs := Text.trim line
  if cs.isEmpty || cs.head? == some '#' then some none
  else do
    let (key, written) ← assignment? cs
    if written.isEmpty || written.head? == some '#' then return some (key, "")
    else return some (key, ← value? env written)

def load (env : Environment) (before : List Char) (place : Place) : List (Option (List Char)) → Option Environment
  | [] => some env
  | none :: _ => some env
  | some line :: rest =>
    let whole := before ++ line
    if isComment whole then load env [] .bare rest
    else
      let (kept, place) := scan place line
      match place with
      | some .bare | none =>
        match entry? env (before ++ withoutEnd kept) with
        | some (some (key, value)) => (env.define? key value).bind fun env => load env [] .bare rest
        | some none => load env [] .bare rest
        | none => some env
      | some place => load env whole place rest

/-- The environment with what a file adds to it, unless that is a value which no variable can have. A mark of
    the byte order may stand in front. -/
def read? (env : Environment) (bytes : Bytes) : Option Environment :=
  match bytes with
  | 0xEF :: 0xBB :: 0xBF :: rest => load env [] .bare (lines rest)
  | bytes => load env [] .bare (lines bytes)

end SecretTemplate.CommandLine.EnvFile
