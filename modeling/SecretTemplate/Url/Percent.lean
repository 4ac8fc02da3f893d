import SecretTemplate.Text.Utf8
import SecretTemplate.Text.Quoted

namespace SecretTemplate.Url

open Text.Utf8 (Bytes)

def isControl (c : Char) : Bool := c.toNat < 0x20 || 0x7E < c.toNat

inductive Part
  | plainPath | fragment | query | specialQuery | path | userinfo
  deriving DecidableEq, Repr

def Part.excluded : Part → List Char
  | plainPath => []
  | fragment => [' ', '\x22', '<', '>', '\x60']
  | query => [' ', '\x22', '#', '<', '>']
  | specialQuery => [' ', '\x22', '#', '<', '>', '\x27']
  | path => [' ', '\x22', '<', '>', '\x60', '#', '?', '{', '}']
  | userinfo =>
    [' ', '\x22', '<', '>', '\x60', '#', '?', '{', '}', '/', ':', ';', '=', '@', '[', '\\', ']', '^', '|']

def upperHex (n : Nat) : Char := if n < 10 then Char.ofNat (0x30 + n) else Char.ofNat (0x37 + n)

def escapeByte (b : UInt8) : List Char := ['%', upperHex (b.toNat / 16), upperHex (b.toNat % 16)]

def encodeChar (part : Part) (c : Char) : List Char :=
  if isControl c || part.excluded.contains c then (Text.Utf8.encodeChar c).flatMap escapeByte else [c]

def encode (part : Part) (cs : List Char) : List Char := cs.flatMap (encodeChar part)

/-- The bytes that a text stands for. A percent sign without two digits after it stands for itself. -/
def decodeBytes : List Char → Bytes
  | [] => []
  | '%' :: a :: b :: rest =>
    match Text.hexValue? a, Text.hexValue? b with
    | some x, some y => UInt8.ofNat (x * 16 + y) :: decodeBytes rest
    | _, _ => 0x25 :: decodeBytes (a :: b :: rest)
  | c :: rest => Text.Utf8.encodeChar c ++ decodeBytes rest

end SecretTemplate.Url
