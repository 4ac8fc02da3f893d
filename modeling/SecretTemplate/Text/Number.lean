namespace SecretTemplate.Text

def maxWord : Nat := Nat.pow 2 64 - 1

def appendDigit? (n : Nat) (c : Char) : Option Nat :=
  let n := n * 10 + (c.toNat - 0x30)
  if c.isDigit && n ≤ maxWord then some n else none

def word? (cs : List Char) : Option Nat :=
  let digits := match cs with
    | '+' :: rest => rest
    | _ => cs
  if digits.isEmpty then none else digits.foldlM appendDigit? 0

end SecretTemplate.Text
