import SecretTemplate.Pattern.Mode
import SecretTemplate.Text.Hex

namespace SecretTemplate.Pattern

inductive Item
  | literal (c : Char)
  | oneOf
  | place
  deriving DecidableEq, Repr, Inhabited

def digits? (m : Mode) : Nat → Nat → List Char → Option (Nat × List Char)
  | 0, n, cs => some (n, cs)
  | count + 1, n, cs =>
    match m.skip cs with
    | [] => none
    | c :: cs => (Text.hexValue? c).bind fun d => digits? m count (n * 16 + d) cs

/-- Reads a character by its number. Where bytes are matched, two digits stand for a byte, which must be one
    of ASCII. -/
def numbered? (m : Mode) (count : Nat) (cs : List Char) : Option (Item × List Char) := do
  let (n, cs) ← digits? m count 0 cs
  guard (decide n.isValidChar && (m.unicode || count != 2 || n < 0x80))
  return (.literal (Char.ofNat n), cs)

def categories : List Char := ['c', 'l', 'm', 'n', 'p', 's', 'z']

def category? (m : Mode) (cs : List Char) : Option (Item × List Char) :=
  match m.skip cs with
  | c :: cs => if m.unicode && categories.contains c.toLower then some (.oneOf, cs) else none
  | [] => none

def isSign (c : Char) : Bool := c.toNat < 0x80 && !c.isAlphanum && c != '<' && c != '>'

def controls : List (Char × Char) :=
  [('a', '\x07'), ('f', '\x0c'), ('n', '\n'), ('r', '\r'), ('t', '\t'), ('v', '\x0b')]

def escape? (m : Mode) : List Char → Option (Item × List Char)
  | [] => none
  | c :: cs =>
    if c = 'x' then numbered? m 2 cs
    else if c = 'u' then numbered? m 4 cs
    else if c = 'U' then numbered? m 8 cs
    else if c = 'p' || c = 'P' then category? m cs
    else if ['d', 's', 'w'].contains c then some (.oneOf, cs)
    else if ['D', 'S', 'W'].contains c then if m.unicode then some (.oneOf, cs) else none
    else if ['b', 'B', '<', '>'].contains c then if m.unicode then none else some (.place, cs)
    else if c = 'A' || c = 'z' then some (.place, cs)
    else if isSign c then some (.literal c, cs)
    else (controls.lookup c).map fun c => (.literal c, cs)

end SecretTemplate.Pattern
