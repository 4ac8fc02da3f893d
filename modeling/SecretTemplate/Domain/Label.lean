import SecretTemplate.Domain.Joining
import SecretTemplate.Domain.Mapping
import SecretTemplate.Domain.Punycode
import SecretTemplate.Text.Composed

namespace SecretTemplate.Domain

def punycodeMark : List Char := ['x', 'n', '-', '-']

def maxRead : Nat := 2000

def maxWritten : Nat := 1000

def isAscii (cs : List Char) : Bool := cs.all (·.toNat < 0x80)

def isSettled (cs : List Char) : Bool := cs.all (fun c => mapped? c == some [c]) && Text.composed cs == cs

/-- The characters that a label stands for. One that is given in Punycode must need it. -/
def characters? (label : List Char) : Option (List Char) :=
  if label.take punycodeMark.length = punycodeMark then do
    let written := label.drop punycodeMark.length
    guard (isAscii written && written.getLast? != some '-' && written.length ≤ maxRead)
    let cs ← Punycode.decode? written
    guard (!isAscii cs && isSettled cs)
    return cs
  else some label

def isWellPlaced (cs : List Char) : Bool := !cs.head?.any Text.isMark && joinersFit [] cs

def written? (label : List Char) : Option (List Char) :=
  if isAscii label then some label
  else if label.length ≤ maxWritten then some (punycodeMark ++ Punycode.encode label)
  else none

end SecretTemplate.Domain
