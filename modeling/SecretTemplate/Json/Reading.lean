import SecretTemplate.Json.Tree

namespace SecretTemplate.Json

open Text.Utf8 (Bytes)

def joinUnits? (high low : Nat) : Option Char :=
  if 0xD800 ≤ high && high ≤ 0xDBFF && 0xDC00 ≤ low && low ≤ 0xDFFF then
    some (Char.ofNat (0x10000 + (high - 0xD800) * 0x400 + (low - 0xDC00)))
  else none

/-- The bytes that the pieces of a string stand for. Halves of a pair of units must meet. -/
def pieceBytes? : List Piece → Option Bytes
  | [] => some []
  | .byte b :: rest => (pieceBytes? rest).map (b :: ·)
  | .escaped c :: rest => (pieceBytes? rest).map (Text.Utf8.encodeChar c ++ ·)
  | .unit high :: .unit low :: rest =>
    match joinUnits? high low with
    | some c => (pieceBytes? rest).map (Text.Utf8.encodeChar c ++ ·)
    | none =>
      if 0xD800 ≤ high && high ≤ 0xDFFF then none
      else (pieceBytes? (.unit low :: rest)).map (Text.Utf8.encodeChar (Char.ofNat high) ++ ·)
  | .unit n :: rest =>
    if 0xD800 ≤ n && n ≤ 0xDFFF then none
    else (pieceBytes? rest).map (Text.Utf8.encodeChar (Char.ofNat n) ++ ·)

def pieceText? (pieces : List Piece) : Option String :=
  (pieceBytes? pieces).bind Text.Utf8.decode?

namespace Tree

mutual

/-- The value of a tree, `depth` being one more than the nesting that it may have. -/
def toJson? (depth : Nat) : Tree → Option Json
  | .null => some .null
  | .bool b => some (.bool b)
  | .number l => l.value?.map .number
  | .string pieces => (pieceText? pieces).map .string
  | .array items => if depth ≤ 1 then none else (itemsJson? (depth - 1) items).map .array
  | .object members => if depth ≤ 1 then none else (membersJson? (depth - 1) members []).map .object

def itemsJson? (depth : Nat) : List Tree → Option (List Json)
  | [] => some []
  | item :: items => do
    let item ← toJson? depth item
    let items ← itemsJson? depth items
    return item :: items

def membersJson? (depth : Nat) : List (List Piece × Tree) → List (String × Json) → Option (List (String × Json))
  | [], known => some known
  | (name, value) :: members, known => do
    let name ← pieceText? name
    let value ← toJson? depth value
    membersJson? depth members (insertEntry name value known)

end

def maxDepth : Nat := 128

def memberNamed? (name : String) (members : List (String × Tree)) : Option (Option Tree) :=
  match members.filter (·.1 == name) with
  | [] => some none
  | [(_, tree)] => some (some tree)
  | _ => none

/-- The one known member `name` of a record: absent, or given by its tree. Fails on trees that are no
    such record. -/
def field? (name : String) : Tree → Option (Option Tree)
  | .array [] => some none
  | .array [item] => some (some item)
  | .object members => do
    let named ← members.mapM fun (n, t) => (pieceText? n).map (·, t)
    memberNamed? name named
  | _ => none

def optional? {α : Type} (read : Tree → Option α) : Option Tree → Option (Option α)
  | none | some .null => some none
  | some tree => (read tree).map some

end Tree

def ofBytes? (bytes : Bytes) : Option Json :=
  (Tree.ofBytes? bytes).bind (Tree.toJson? Tree.maxDepth)

def ofString? (s : String) : Option Json :=
  ofBytes? (Text.Utf8.encode s)

end SecretTemplate.Json
