import SecretTemplate.Decimal.Shortest

namespace SecretTemplate.Json

open Decimal (Binary64)

inductive Number
  | int (value : Int)
  | real (negative : Bool) (magnitude : Binary64)
  deriving DecidableEq, Repr, Inhabited

structure Literal where
  negative : Bool
  whole : List Nat
  fraction : Option (List Nat)
  exponent : Option (Bool × List Nat)
  deriving DecidableEq, Repr, Inhabited

namespace Literal

def maxWord : Nat := Nat.pow 2 64 - 1
def maxScale : Nat := Nat.pow 2 31 - 1

def absorb (word : Nat) : List Nat → Nat × List Nat
  | [] => (word, [])
  | d :: ds => if word * 10 + d ≤ maxWord then absorb (word * 10 + d) ds else (word, d :: ds)

/-- The magnitude of `word · 10 ^ scale`: `word` is rounded, then scaled by one rounded power of ten
    after another, of at most 308 places each. -/
def magnitude? (word : Nat) (scale : Int) : Option Binary64 :=
  let rec descend (x : Binary64) (places : Nat) : Nat → Option Binary64
    | 0 => some .zero
    | fuel + 1 =>
      if places ≤ 308 then x.div? (.powerOfTen places)
      else do
        let y ← x.div? (.powerOfTen 308)
        if y.mantissa = 0 then some .zero else descend y (places - 308) fuel
  let x := Binary64.ofNat word
  if 0 ≤ scale then
    if scale ≤ 308 then x.mul? (.powerOfTen scale.toNat)
    else if word = 0 then some .zero
    else none
  else if word = 0 then some .zero
  else descend x (-scale).toNat 4

def scale? (digits : List Nat) : Option Nat :=
  let n := digits.foldl (fun n d => min (n * 10 + d) (maxScale + 1)) 0
  if n ≤ maxScale then some n else none

def value? (l : Literal) : Option Number :=
  let (word, skipped) := absorb 0 l.whole
  let real (scale : Int) := (magnitude? word scale).map (Number.real l.negative)
  match l.fraction, l.exponent with
  | none, none =>
    if !skipped.isEmpty then real skipped.length
    else if !l.negative then some (.int word)
    else if word = 0 || Nat.pow 2 63 < word then real 0
    else some (.int (-word))
  | fraction, exponent =>
    let digits := fraction.getD []
    let (word, unread) := absorb word digits
    let start : Int := skipped.length - (digits.length - unread.length : Nat)
    match exponent with
    | none => (magnitude? word start).map (Number.real l.negative)
    | some (down, places) =>
      match scale? places with
      | some n => (magnitude? word (if down then start - n else start + n)).map (Number.real l.negative)
      | none => if word = 0 || down then some (.real l.negative .zero) else none

end Literal

/-- A magnitude is written with its digits in place when the point falls within sixteen places to the
    left or five zeros to the right, and with an exponent otherwise. -/
def magnitudeText (x : Binary64) : String :=
  let d := x.shortest.reduced 400
  let digits := toString d.digits
  let point := digits.length + d.exponent
  if x.mantissa = 0 then "0.0"
  else if 0 ≤ d.exponent && point ≤ 16 then
    digits ++ String.ofList (List.replicate d.exponent.toNat '0') ++ ".0"
  else if 0 < point && point ≤ 16 then
    String.ofList (digits.toList.take point.toNat) ++ "." ++ String.ofList (digits.toList.drop point.toNat)
  else if -5 < point && point ≤ 0 then
    "0." ++ String.ofList (List.replicate (-point).toNat '0') ++ digits
  else
    let lead := String.ofList (digits.toList.take 1)
    let rest := String.ofList (digits.toList.drop 1)
    let sign := if 0 < point then "+" else "-"
    lead ++ (if rest.isEmpty then "" else "." ++ rest) ++ "e" ++ sign ++ toString (point - 1).natAbs

def Number.text : Number → String
  | .int n => toString n
  | .real negative x => (if negative then "-" else "") ++ magnitudeText x

end SecretTemplate.Json
