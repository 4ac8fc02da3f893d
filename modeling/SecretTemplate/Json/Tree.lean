import SecretTemplate.Json.Value
import SecretTemplate.Text.Utf8

namespace SecretTemplate.Json

open Text.Utf8 (Bytes)

inductive Piece
  | byte (value : UInt8)
  | escaped (value : Char)
  | unit (value : Nat)
  deriving DecidableEq, Repr

inductive Tree
  | null
  | bool (value : Bool)
  | number (literal : Literal)
  | string (pieces : List Piece)
  | array (items : List Tree)
  | object (members : List (List Piece × Tree))
  deriving Repr, Inhabited

namespace Tree

def isSpace (b : UInt8) : Bool := b == 0x20 || b == 0x0A || b == 0x0D || b == 0x09

def skipSpace (bytes : Bytes) : Bytes := bytes.dropWhile isSpace

def isDigit (b : UInt8) : Bool := 0x30 ≤ b && b ≤ 0x39

def digits (bytes : Bytes) : List Nat × Bytes :=
  ((bytes.takeWhile isDigit).map fun b => b.toNat - 0x30, bytes.dropWhile isDigit)

def hexValue? (b : UInt8) : Option Nat := Text.hexValue? (Char.ofNat b.toNat)

def fraction? : Bytes → Option (Option (List Nat) × Bytes)
  | 0x2E :: rest =>
    match digits rest with
    | ([], _) => none
    | (ds, rest) => some (some ds, rest)
  | rest => some (none, rest)

def exponentDigits? (down : Bool) (bytes : Bytes) : Option (Option (Bool × List Nat) × Bytes) :=
  match digits bytes with
  | ([], _) => none
  | (ds, rest) => some (some (down, ds), rest)

def exponent? : Bytes → Option (Option (Bool × List Nat) × Bytes)
  | [] => some (none, [])
  | b :: rest =>
    if b == 0x65 || b == 0x45 then
      match rest with
      | 0x2B :: rest => exponentDigits? false rest
      | 0x2D :: rest => exponentDigits? true rest
      | rest => exponentDigits? false rest
    else some (none, b :: rest)

def number? (negative : Bool) (bytes : Bytes) : Option (Literal × Bytes) := do
  let (whole, rest) := digits bytes
  guard (!whole.isEmpty && (whole.length == 1 || whole.head? != some 0))
  let (fraction, rest) ← fraction? rest
  let (exponent, rest) ← exponent? rest
  return (⟨negative, whole, fraction, exponent⟩, rest)

def simpleEscape? (b : UInt8) : Option Char :=
  if b == 0x22 then some '\x22' else if b == 0x5C then some '\\' else if b == 0x2F then some '/'
  else if b == 0x62 then some '\x08' else if b == 0x66 then some '\x0c' else if b == 0x6E then some '\n'
  else if b == 0x72 then some '\r' else if b == 0x74 then some '\t' else none

def string? : Bytes → Option (List Piece × Bytes)
  | [] => none
  | 0x22 :: rest => some ([], rest)
  | 0x5C :: 0x75 :: a :: b :: c :: d :: rest => do
    let a ← hexValue? a
    let b ← hexValue? b
    let c ← hexValue? c
    let d ← hexValue? d
    let (pieces, rest) ← string? rest
    return (.unit (((a * 16 + b) * 16 + c) * 16 + d) :: pieces, rest)
  | 0x5C :: b :: rest => do
    let c ← simpleEscape? b
    let (pieces, rest) ← string? rest
    return (.escaped c :: pieces, rest)
  | b :: rest =>
    if b < 0x20 || b == 0x5C then none
    else do
      let (pieces, rest) ← string? rest
      return (.byte b :: pieces, rest)

mutual

def value? : Nat → Bytes → Option (Tree × Bytes)
  | 0, _ => none
  | fuel + 1, bytes =>
    match skipSpace bytes with
    | 0x6E :: 0x75 :: 0x6C :: 0x6C :: rest => some (.null, rest)
    | 0x74 :: 0x72 :: 0x75 :: 0x65 :: rest => some (.bool true, rest)
    | 0x66 :: 0x61 :: 0x6C :: 0x73 :: 0x65 :: rest => some (.bool false, rest)
    | 0x22 :: rest => (string? rest).map fun (pieces, rest) => (.string pieces, rest)
    | 0x5B :: rest =>
      match skipSpace rest with
      | 0x5D :: rest => some (.array [], rest)
      | rest => (items? fuel rest).map fun (items, rest) => (.array items, rest)
    | 0x7B :: rest =>
      match skipSpace rest with
      | 0x7D :: rest => some (.object [], rest)
      | rest => (members? fuel rest).map fun (members, rest) => (.object members, rest)
    | 0x2D :: rest => (number? true rest).map fun (l, rest) => (.number l, rest)
    | rest => (number? false rest).map fun (l, rest) => (.number l, rest)

def items? : Nat → Bytes → Option (List Tree × Bytes)
  | 0, _ => none
  | fuel + 1, bytes => do
    let (item, rest) ← value? fuel bytes
    match skipSpace rest with
    | 0x5D :: rest => some ([item], rest)
    | 0x2C :: rest =>
      let (items, rest) ← items? fuel rest
      return (item :: items, rest)
    | _ => none

def members? : Nat → Bytes → Option (List (List Piece × Tree) × Bytes)
  | 0, _ => none
  | fuel + 1, bytes =>
    match skipSpace bytes with
    | 0x22 :: rest => do
      let (name, rest) ← string? rest
      match skipSpace rest with
      | 0x3A :: rest =>
        let (value, rest) ← value? fuel rest
        match skipSpace rest with
        | 0x7D :: rest => some ([(name, value)], rest)
        | 0x2C :: rest =>
          let (members, rest) ← members? fuel rest
          return ((name, value) :: members, rest)
        | _ => none
      | _ => none
    | _ => none

end

/-- The tree of a whole text. Each step of the reader takes a byte or enters an item, so twice the
    number of bytes is allowance enough. -/
def ofBytes? (bytes : Bytes) : Option Tree := do
  let (tree, rest) ← value? (2 * bytes.length + 2) bytes
  guard (skipSpace rest).isEmpty
  return tree

end Tree

end SecretTemplate.Json
