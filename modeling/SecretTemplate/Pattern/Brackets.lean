import SecretTemplate.Pattern.Escape

namespace SecretTemplate.Pattern

def asciiNames : List String :=
  ["alnum", "alpha", "ascii", "blank", "cntrl", "digit", "graph", "lower", "print", "punct", "space",
    "upper", "word", "xdigit"]

def named? : List Char → Option (Bool × List Char)
  | ':' :: cs =>
    let (opposite, cs) := match cs with
      | '^' :: cs => (true, cs)
      | cs => (false, cs)
    let name := cs.takeWhile (· != ':')
    match cs.drop name.length with
    | ':' :: ']' :: rest => if asciiNames.contains (.ofList name) then some (opposite, rest) else none
    | _ => none
  | _ => none

def together : List Nat → Nat
  | [] => 0
  | [depth] => depth
  | depths => 1 + depths.foldl max 0

structure Open where
  members : List Nat := []
  left : Option Nat := none
  deriving DecidableEq, Repr, Inhabited

namespace Open

def add (o : Open) (depth : Nat) : Open := { o with members := depth :: o.members }

def depth (o : Open) : Nat :=
  match o.left with
  | none => together o.members
  | some left => 1 + max left (together o.members)

end Open

def hyphens? (m : Mode) (o : Open) : Nat → List Char → Option (Open × List Char)
  | 0, _ => none
  | fuel + 1, cs => do
    match ← m.next? cs with
    | '-' :: cs => hyphens? m (o.add 0) fuel cs
    | cs => some (o, cs)

/-- Reads what stands for itself at the beginning of a class: hyphens, or a closing bracket. The opposite of
    a class is never one of bytes. -/
def opening? (m : Mode) (cs : List Char) : Option (Open × List Char) := do
  let cs ← m.next? cs
  let cs ← match cs with
    | '^' :: cs => if m.unicode then m.next? cs else none
    | cs => some cs
  match cs with
  | ']' :: cs => return (Open.add {} 0, ← m.next? cs)
  | cs => hyphens? m {} (cs.length + 1) cs

def Item.mayBeMember (m : Mode) : Item → Bool
  | literal c => m.unicode || c.toNat < 0x80
  | .oneOf => true
  | place => false

def member? (m : Mode) (cs : List Char) : Option (Item × List Char) := do
  let (item, cs) ← match cs with
    | [] => none
    | '\\' :: cs => escape? m cs
    | c :: cs => some (.literal c, cs)
  guard (item.mayBeMember m)
  return (item, cs)

def members? (m : Mode) (cs : List Char) : Option (List Char) := do
  let (first, cs) ← member? m cs
  match ← m.next? cs with
  | '-' :: rest =>
    if [some ']', some '-'].contains (m.peek? rest) then some ('-' :: rest)
    else
      let (last, rest) ← member? m (← m.next? rest)
      match first, last with
      | .literal a, .literal b => if a ≤ b then some rest else none
      | _, _ => none
  | cs => some cs

/-- Reads up to the bracket that closes a class, with a step allowance. The classes `outer` are open around
    it, the innermost one first. -/
def closing? (m : Mode) (outer : List Open) (o : Open) : Nat → List Char → Option (Nat × List Char)
  | 0, _ => none
  | fuel + 1, cs => do
    match ← m.next? cs with
    | ']' :: rest =>
      match outer with
      | [] => some (o.depth + 1, rest)
      | next :: outer => closing? m outer (next.add (o.depth + 1)) fuel rest
    | '[' :: rest =>
      match named? rest with
      | some (opposite, rest) => if opposite && !m.unicode then none else closing? m outer (o.add 0) fuel rest
      | none =>
        let (inner, rest) ← opening? m rest
        closing? m (o :: outer) inner fuel rest
    | '&' :: '&' :: rest | '-' :: '-' :: rest | '~' :: '~' :: rest =>
      closing? m outer { left := some o.depth } fuel rest
    | cs => closing? m outer (o.add 0) fuel (← members? m cs)

def brackets? (m : Mode) (cs : List Char) : Option (Nat × List Char) := do
  let (o, cs) ← opening? m cs
  closing? m [] o (cs.length + 1) cs

end SecretTemplate.Pattern
