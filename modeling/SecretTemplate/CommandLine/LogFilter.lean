import SecretTemplate.Event
import SecretTemplate.Pattern.Syntax
import SecretTemplate.Text.Number
import SecretTemplate.Text.Trim

namespace SecretTemplate.CommandLine

abbrev Threshold := Option Level

structure Directive where
  target : Option String := none
  field : Option String := none
  aboutSpans : Bool := false
  threshold : Threshold := some .trace
  deriving DecidableEq, Repr, Inhabited

abbrev LogFilter := List Directive

namespace LogFilter

inductive Fault
  | malformed
  | cutCharacter
  deriving DecidableEq, Repr, Inhabited

def names : List (String × Threshold) :=
  [("off", none), ("error", some .error), ("warn", some .warn), ("info", some .info), ("debug", some .debug),
    ("trace", some .trace)]

def threshold? (cs : List Char) : Option Threshold :=
  match (Text.word? cs).bind (names[·]?) with
  | some (_, threshold) => some threshold
  | none => (names.find? (·.1.toList == cs.map Char.toLower)).map (·.2)

def cutAt (n : Nat) : List Char → Except Fault (List Char × List Char)
  | [] => .ok ([], [])
  | c :: cs =>
    if n = 0 then .ok ([], c :: cs)
    else if n < c.utf8Size then .error .cutCharacter
    else (cutAt (n - c.utf8Size) cs).map fun (before, rest) => (c :: before, rest)

def between (first last : Nat) (cs : List Char) : Except Fault (List Char) := do
  let (_, cs) ← cutAt first cs
  return (← cutAt (last - first) cs).1

def startingAt (first : Nat) (cs : List Char) : Except Fault (List Char) := (·.2) <$> cutAt first cs

def isNumber (cs : List Char) : Bool :=
  let unsigned (cs : List Char) : List Char := if cs.head? == some '+' || cs.head? == some '-' then cs.drop 1 else cs
  let lower := (unsigned cs).map Char.toLower
  let whole := lower.takeWhile Char.isDigit
  let rest := lower.drop whole.length
  let fraction := if rest.head? == some '.' then (rest.drop 1).takeWhile Char.isDigit else []
  let rest := if rest.head? == some '.' then rest.drop (fraction.length + 1) else rest
  ["inf", "infinity", "nan"].contains (String.ofList lower) ||
    (!(whole.isEmpty && fraction.isEmpty) &&
      match rest with
      | [] => true
      | 'e' :: rest => !(unsigned rest).isEmpty && (unsigned rest).all Char.isDigit
      | _ => false)

def readField (d : Directive) (cs : List Char) : Except Fault Directive :=
  if cs.isEmpty then .error .malformed
  else
    match Text.splitAll '=' cs with
    | _ :: value :: _ =>
      if isNumber value || Pattern.isWellFormed value then .ok { d with aboutSpans := true } else .error .malformed
    | _ => .ok { d with field := some (.ofList cs) }

inductive Stage
  | start
  | name
  | span (first : Nat)
  | field (first : Nat)
  | closed
  | ended
  | level (first : Nat)
  deriving DecidableEq, Repr

def mayBegin (c : Char) : Bool := c == '-' || c == ':' || c == '_' || Text.isLetterOrDigit c

def Stage.take (text : List Char) (i : Nat) (c : Char) (d : Directive) : Stage → Except Fault (Stage × Directive)
  | start =>
    if c = '[' then .ok (span (i + 1), d) else if mayBegin c then .ok (name, d) else .error .malformed
  | name =>
    if c = '=' || c = '[' then do
      let target := String.ofList (← between 0 i text)
      return (if c = '=' then level (i + 1) else span (i + 1), { d with target := some target })
    else .ok (name, d)
  | span first =>
    if c = ']' then do
      let _ ← between first i text
      return (ended, { d with aboutSpans := true })
    else if c = '{' then do
      let name ← between first i text
      return (field (i + 1), { d with aboutSpans := !name.isEmpty })
    else .ok (span first, d)
  | field first =>
    if c = '}' then do return (closed, ← readField d (← between first i text)) else .ok (field first, d)
  | closed => if c = ']' then .ok (ended, d) else .error .malformed
  | ended => if c = '=' then .ok (level (i + 1), d) else .error .malformed
  | level first => .ok (level first, d)

def Stage.finish (text : List Char) (d : Directive) : Stage → Except Fault Directive
  | name =>
    match threshold? text with
    | some threshold => .ok { d with threshold }
    | none => .ok { d with target := some (.ofList text) }
  | level first => do
    let level ← startingAt first text
    match if level.isEmpty then some d.threshold else threshold? level with
    | some threshold => return { d with threshold }
    | none => throw .malformed
  | ended => .ok d
  | _ => .error .malformed

def readFrom (text : List Char) (i : Nat) (stage : Stage) (d : Directive) : List Char → Except Fault Directive
  | [] => stage.finish text d
  | c :: cs => do
    let (stage, d) ← stage.take text i c d
    readFrom text (i + c.utf8Size) stage d cs

def readDirective (text : List Char) : Except Fault Directive := readFrom text 0 .start {} (Text.trim text)

def read (s : String) : Except Fault LogFilter :=
  ((Text.splitAll ',' s.toList).filter (!·.isEmpty)).mapM readDirective

def ofLevel (level : Level) : LogFilter := [{ target := some Component.program.target, threshold := some level }]

/-- The filter that a text describes, or else the one of a level. There is none if the text cannot be cut. -/
def ofText? (text : Option String) (level : Level) : Option LogFilter :=
  match text.map read with
  | some (.ok filter) => some filter
  | some (.error .cutCharacter) => none
  | some (.error .malformed) | none => some (ofLevel level)

def messageField : String := "message"

def Directive.concerns (d : Directive) (target : String) : Bool :=
  !d.aboutSpans && d.target.all (fun front => front.toList.isPrefixOf target.toList) &&
    d.field.all (· == messageField)

def Directive.specificity (d : Directive) : Nat × Nat :=
  (match d.target with
    | none => 0
    | some front => front.length + 1, if d.field.isSome then 1 else 0)

def Directive.atLeast (d other : Directive) : Bool :=
  let (m, n) := Directive.specificity d
  let (m', n') := Directive.specificity other
  m' < m || (m' == m && n' ≤ n)

/-- The directive that decides about a target: the most specific one, and of equal ones the last. -/
def decisive? (filter : LogFilter) (target : String) : Option Directive :=
  filter.foldl (fun best d =>
    if Directive.concerns d target && best.all (Directive.atLeast d) then some d else best) none

def shows (filter : LogFilter) (e : Event) : Bool :=
  match (filter.decisive? e.component.target).bind (·.threshold) with
  | some threshold => e.level.rank ≤ threshold.rank
  | none => false

end LogFilter

end SecretTemplate.CommandLine
