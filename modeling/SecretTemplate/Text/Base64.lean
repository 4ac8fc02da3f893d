import SecretTemplate.Text.Utf8

namespace SecretTemplate.Text

open Utf8 (Bytes)

def base64Digit (n : Nat) : Char :=
  if n < 26 then Char.ofNat (0x41 + n)
  else if n < 52 then Char.ofNat (0x61 + n - 26)
  else if n < 62 then Char.ofNat (0x30 + n - 52)
  else if n = 62 then '+' else '/'

def base64 : Bytes → List Char
  | a :: b :: c :: rest =>
    let n := (a.toNat * 256 + b.toNat) * 256 + c.toNat
    [n / Nat.pow 2 18, n / Nat.pow 2 12 % 64, n / 64 % 64, n % 64].map base64Digit ++ base64 rest
  | [a, b] =>
    let n := (a.toNat * 256 + b.toNat) * 4
    [n / Nat.pow 2 12, n / 64 % 64, n % 64].map base64Digit ++ ['=']
  | [a] => [a.toNat / 4, a.toNat % 4 * 16].map base64Digit ++ ['=', '=']
  | [] => []

end SecretTemplate.Text
