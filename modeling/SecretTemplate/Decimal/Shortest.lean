import SecretTemplate.Decimal.Binary64

namespace SecretTemplate.Decimal

structure Scaled where
  digits : Nat
  exponent : Int
  deriving DecidableEq, Repr, Inhabited

def Binary64.magnitude (x : Binary64) : Int :=
  let p := ((Nat.log2 x.mantissa : Int) + x.exponent) * 30103 / 100000
  let (n, d) := x.ratio
  let next := p + 1
  let reaches := if 0 ≤ next then d * Nat.pow 10 next.toNat ≤ n else d ≤ n * Nat.pow 10 (-next).toNat
  if reaches then next else p

/-- The decimal with digits at the position `k` and above that is nearest to `x` among those which
    round to `x`. Quantities are compared in quarters of the last binary place. -/
def Binary64.atPosition? (x : Binary64) (k : Int) : Option Nat :=
  let unit := x.exponent - 2
  let scale (n : Nat) := n * Nat.pow 10 k.toNat * Nat.pow 2 (-unit).toNat
  let place (q : Nat) := q * Nat.pow 2 unit.toNat * Nat.pow 10 (-k).toNat
  let value := 4 * x.mantissa
  let narrow := x.mantissa = Nat.pow 2 52 ∧ x.exponent > Binary64.minExponent
  let low := value - if narrow then 1 else 2
  let high := value + 2
  let inside (n : Nat) :=
    if x.mantissa % 2 = 0 then place low ≤ scale n && scale n ≤ place high
    else place low < scale n && scale n < place high
  let below := place value / scale 1
  let above := below + 1
  match inside below, inside above with
  | true, true =>
    let down := place value - scale below
    let up := scale above - place value
    some (if down < up then below else if up < down then above
      else if below % 2 = 0 then below else above)
  | true, false => some below
  | false, true => some above
  | false, false => none

def Binary64.shortestFrom (x : Binary64) (count : Nat) : Nat → Scaled
  | 0 => ⟨0, 0⟩
  | fuel + 1 =>
    let k := x.magnitude - count + 1
    match x.atPosition? k with
    | some digits => ⟨digits, k⟩
    | none => shortestFrom x (count + 1) fuel

/-- The shortest decimal that reads back as `x`; seventeen digits always do. -/
def Binary64.shortest (x : Binary64) : Scaled :=
  if x.mantissa = 0 then ⟨0, 0⟩ else x.shortestFrom 1 17

def Scaled.reduced (d : Scaled) : Nat → Scaled
  | 0 => d
  | fuel + 1 =>
    if d.digits ≠ 0 ∧ d.digits % 10 = 0 then Scaled.reduced ⟨d.digits / 10, d.exponent + 1⟩ fuel else d

end SecretTemplate.Decimal
