import SecretTemplate.Text.Composition
import SecretTemplate.Text.Marks

namespace SecretTemplate.Text

def insertMark (c : Char) : List Char → List Char
  | [] => [c]
  | d :: ds =>
    if 0 < combiningClass d && combiningClass d < combiningClass c then d :: insertMark c ds else c :: d :: ds

def orderMarks (cs : List Char) : List Char := cs.foldr insertMark []

/-- Composes `base` with the characters after it, as far as no mark is between that has the same class or a
    higher one. `marks` are those that stay behind the base, and `last` is the class of the last one. -/
def composeOnto (base : Char) (marks : List Char) (last : Nat) : List Char → List Char
  | [] => base :: marks
  | c :: cs =>
    let k := combiningClass c
    match if marks.isEmpty || last < k then compose? base c else none with
    | some composed => composeOnto composed marks last cs
    | none =>
      if k = 0 then base :: marks ++ composeOnto c [] 0 cs
      else composeOnto base (marks ++ [c]) k cs

def composeAll : List Char → List Char
  | [] => []
  | c :: cs => if combiningClass c = 0 then composeOnto c [] 0 cs else c :: composeAll cs

/-- The composed normal form. No character before the first mark has another one. -/
def composed (cs : List Char) : List Char :=
  if cs.all (·.toNat < firstMark) then cs else composeAll (orderMarks (cs.flatMap decompose))

end SecretTemplate.Text
