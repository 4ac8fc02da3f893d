import SecretTemplate.Text.Blank
import SecretTemplate.Text.Utf8

namespace SecretTemplate.Placeholder

open Text.Utf8 (Bytes takeScalars encode)

def isTokenChar (c : Char) : Bool := !Text.isBlank c && c != '{' && c != '}'

/-- The placeholder at the front of `bytes`. Its three runs are of disjoint classes of scalars, so
    taking each as long as possible leaves no choice. -/
def atFront? : Bytes → Option String
  | 0x7B :: 0x7B :: rest =>
    let (lead, rest) := takeScalars Text.isBlank 0 rest
    let (token, rest) := takeScalars isTokenChar 0 rest
    let (trail, rest) := takeScalars Text.isBlank 0 rest
    match rest with
    | 0x7D :: 0x7D :: _ => some (String.ofList (['{', '{'] ++ lead ++ token ++ trail ++ ['}', '}']))
    | _ => none
  | _ => none

/-- A part of a template: a byte that stands for itself, or a placeholder. -/
inductive Piece
  | plain (byte : UInt8)
  | placeholder (text : String)
  deriving DecidableEq, Repr

def Piece.bytes : Piece → Bytes
  | plain b => [b]
  | placeholder text => encode text

def Piece.placeholder? : Piece → Option String
  | plain _ => none
  | placeholder text => some text

/-- Cuts a template into pieces from the left. `inside` bytes belong to a placeholder that has been
    cut already. -/
def cutFrom (inside : Nat) : Bytes → List Piece
  | [] => []
  | b :: bs =>
    match inside with
    | n + 1 => cutFrom n bs
    | 0 =>
      match atFront? (b :: bs) with
      | some text => .placeholder text :: cutFrom ((encode text).length - 1) bs
      | none => .plain b :: cutFrom 0 bs

def pieces (template : Bytes) : List Piece := cutFrom 0 template

def find (template : Bytes) : List String :=
  (pieces template).filterMap Piece.placeholder?

end SecretTemplate.Placeholder
