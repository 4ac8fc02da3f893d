import SecretTemplate.Pattern.Brackets
import SecretTemplate.Text.Letters

namespace SecretTemplate.Pattern

structure Scope where
  mode : Mode := {}
  parts : List (Option Nat) := []
  alternatives : List Nat := []
  deriving DecidableEq, Repr, Inhabited

namespace Scope

def add (s : Scope) (depth : Nat) : Scope := { s with parts := some depth :: s.parts }

def rowDepth (s : Scope) : Nat := together (s.parts.map (·.getD 0))

def depth (s : Scope) : Nat := together (s.rowDepth :: s.alternatives)

end Scope

structure Reading where
  scope : Scope := {}
  outer : List Scope := []
  names : List (List Char) := []
  deriving DecidableEq, Repr, Inhabited

def maxDepth : Nat := 250

namespace Reading

def add (r : Reading) (depth : Nat) : Reading := { r with scope := r.scope.add depth }

def enter (r : Reading) (mode : Mode) : Reading := { r with scope := { mode }, outer := r.scope :: r.outer }

def leave? (r : Reading) : Option Reading :=
  match r.outer with
  | scope :: outer => some { r with scope := scope.add (r.scope.depth + 1), outer }
  | [] => none

def alternate (r : Reading) : Reading :=
  { r with scope := { mode := r.scope.mode, alternatives := r.scope.rowDepth :: r.scope.alternatives } }

def set (r : Reading) (flags : List Char) : Reading :=
  { r with scope := { r.scope with mode := r.scope.mode.set flags, parts := none :: r.scope.parts } }

def isNameStart (c : Char) : Bool := c == '_' || Text.isLetter c

def isNameChar (c : Char) : Bool := ['_', '.', '[', ']'].contains c || Text.isLetterOrDigit c

def name? (r : Reading) (cs : List Char) : Option (Reading × List Char) :=
  let name := cs.takeWhile (· != '>')
  match cs.drop name.length with
  | '>' :: rest =>
    if name.head?.any isNameStart && (name.drop 1).all isNameChar && !r.names.contains name then
      some ({ r with names := name :: r.names }.enter r.scope.mode, rest)
    else none
  | _ => none

/-- Reads the beginning of a group, after its parenthesis. Flags alone are no group. -/
def group? (r : Reading) (cs : List Char) : Option (Reading × List Char) :=
  match r.scope.mode.skip cs with
  | '?' :: 'P' :: '<' :: rest => r.name? rest
  | '?' :: '<' :: rest => if [some '=', some '!'].contains rest.head? then none else r.name? rest
  | '?' :: rest =>
    match flags? [] rest with
    | some (flags, ':' :: rest) => some (r.enter (r.scope.mode.set flags), rest)
    | some (flags, _ :: rest) => if flags.isEmpty then none else some (r.set flags, rest)
    | _ => none
  | cs => some (r.enter r.scope.mode, cs)

/-- Reads a sign of repetition, behind something that can be repeated. A question mark right behind it belongs
    to it. -/
def repetition? (r : Reading) (cs : List Char) : Option (Reading × List Char) :=
  match r.scope.parts with
  | some depth :: parts =>
    some ({ r with scope := { r.scope with parts := some (depth + 1) :: parts } },
      if cs.head? == some '?' then cs.drop 1 else cs)
  | _ => none

def step? (r : Reading) (c : Char) (cs : List Char) : Option (Reading × List Char) :=
  let mode := r.scope.mode
  if c = '(' then r.group? cs
  else if c = ')' then r.leave?.map (·, cs)
  else if c = '|' then some (r.alternate, cs)
  else if c = '?' || c = '*' || c = '+' then r.repetition? cs
  else if c = '{' then none
  else if c = '[' then (brackets? mode cs).map fun (depth, cs) => (r.add depth, cs)
  else if c = '\\' then (escape? mode cs).map fun (_, cs) => (r.add 0, cs)
  else if c = '.' then if mode.unicode then some (r.add 0, cs) else none
  else some (r.add 0, cs)

def accepts (r : Reading) : Nat → List Char → Bool
  | 0, _ => false
  | fuel + 1, cs =>
    match r.scope.mode.skip cs with
    | [] => r.outer.isEmpty && r.scope.depth ≤ maxDepth
    | c :: cs =>
      match r.step? c cs with
      | some (r, cs) => accepts r fuel cs
      | none => false

end Reading

def isWellFormed (cs : List Char) : Bool := Reading.accepts {} (cs.length + 1) cs

end SecretTemplate.Pattern
