import SecretTemplate.Text.Blank

namespace SecretTemplate.Pattern

structure Mode where
  spaced : Bool := false
  unicode : Bool := true
  deriving DecidableEq, Repr, Inhabited

def withoutSpace (inComment : Bool) : List Char → List Char
  | [] => []
  | c :: cs =>
    if inComment then withoutSpace (c != '\n') cs
    else if Text.isBlank c then withoutSpace false cs
    else if c = '#' then withoutSpace true cs
    else c :: cs

namespace Mode

def skip (m : Mode) (cs : List Char) : List Char := if m.spaced then withoutSpace false cs else cs

def next? (m : Mode) (cs : List Char) : Option (List Char) :=
  match m.skip cs with
  | [] => none
  | cs => some cs

def peek? (m : Mode) (cs : List Char) : Option Char :=
  if m.spaced then
    match cs.dropWhile Text.isBlank with
    | '#' :: rest => (rest.dropWhile Text.isBlank).head?
    | rest => rest.head?
  else cs.head?

end Mode

def flagNames : List Char := ['i', 'm', 's', 'U', 'u', 'R', 'x']

/-- Reads flags up to a colon or a closing parenthesis, which is left. Flags after a hyphen are turned off;
    neither it nor a flag stands twice, and the hyphen does not stand last. -/
def flags? (seen : List Char) : List Char → Option (List Char × List Char)
  | [] => none
  | c :: cs =>
    if c = ':' || c = ')' then if seen.getLast? = some '-' then none else some (seen, c :: cs)
    else if (c = '-' || flagNames.contains c) && !seen.contains c then flags? (seen ++ [c]) cs
    else none

def Mode.set (m : Mode) (flags : List Char) : Mode :=
  let state (flag : Char) (before : Bool) : Bool :=
    if flags.contains flag then (flags.takeWhile (· != '-')).contains flag else before
  { spaced := state 'x' m.spaced, unicode := state 'u' m.unicode }

end SecretTemplate.Pattern
