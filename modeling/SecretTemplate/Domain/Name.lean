import SecretTemplate.Domain.Direction
import SecretTemplate.Domain.Label

namespace SecretTemplate.Domain

def isForbidden (c : Char) : Bool :=
  c.toNat ≤ 0x20 || c.toNat == 0x7F ||
    ['%', '#', '/', ':', '<', '>', '?', '@', '[', '\\', ']', '^', '|'].contains c

def toAscii? (cs : List Char) : Option (List Char) := do
  let cs := Text.composed (← cs.mapM mapped?).flatten
  guard (!cs.any isForbidden)
  let labels := Text.splitAll '.' cs
  let characters ← labels.mapM characters?
  guard (characters.all isWellPlaced)
  guard (!characters.any (·.any turnsLeft) || characters.all keepsDirection)
  return List.intercalate ['.'] (← labels.mapM written?)

end SecretTemplate.Domain
