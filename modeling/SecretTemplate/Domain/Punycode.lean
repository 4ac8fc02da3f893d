namespace SecretTemplate.Domain.Punycode

def digitChar (d : Nat) : Char := if d < 26 then Char.ofNat (0x61 + d) else Char.ofNat (0x16 + d)

def digitValue? (c : Char) : Option Nat :=
  let n := c.toNat
  if 0x61 ≤ n && n ≤ 0x7A then some (n - 0x61)
  else if 0x41 ≤ n && n ≤ 0x5A then some (n - 0x41)
  else if 0x30 ≤ n && n ≤ 0x39 then some (n - 0x16)
  else none

def threshold (k bias : Nat) : Nat :=
  if k ≤ bias then 1 else if bias + 26 ≤ k then 26 else k - bias

def adaptFrom (delta k : Nat) : Nat → Nat
  | 0 => k
  | fuel + 1 => if 455 < delta then adaptFrom (delta / 35) (k + 36) fuel else k + 36 * delta / (delta + 38)

/-- The bias after a number was written, from its size and the number of characters so far. -/
def adapt (delta count : Nat) (first : Bool) : Nat :=
  let delta := if first then delta / 700 else delta / 2
  adaptFrom (delta + delta / count) 0 32

def digits (bias k n : Nat) : Nat → List Char
  | 0 => []
  | fuel + 1 =>
    let t := threshold k bias
    if n < t then [digitChar n]
    else digitChar (t + (n - t) % (36 - t)) :: digits bias (k + 36) ((n - t) / (36 - t)) fuel

structure Encoder where
  output : List Char
  delta : Nat
  bias : Nat
  handled : Nat

def Encoder.see (basic m : Nat) (s : Encoder) (c : Char) : Encoder :=
  if c.toNat < m then { s with delta := s.delta + 1 }
  else if c.toNat = m then
    { output := s.output ++ digits s.bias 36 s.delta 32
      delta := 0
      bias := adapt s.delta (s.handled + 1) (s.handled == basic)
      handled := s.handled + 1 }
  else s

def Encoder.insertAll (label : List Char) (basic : Nat) : Nat → List Nat → Encoder → Encoder
  | _, [], s => s
  | next, m :: rest, s =>
    let s := { s with delta := s.delta + (m - next) * (s.handled + 1) }
    let s := label.foldl (Encoder.see basic m) s
    insertAll label basic (m + 1) rest { s with delta := s.delta + 1 }

def encode (label : List Char) : List Char :=
  let basic := label.filter (·.toNat < 0x80)
  let others := ((label.filter (0x80 ≤ ·.toNat)).map Char.toNat).mergeSort (· ≤ ·) |>.eraseDups
  let start : Encoder := ⟨basic ++ (if basic.isEmpty then [] else ['-']), 0, 72, basic.length⟩
  (Encoder.insertAll label basic.length 0x80 others start).output

def limit : Nat := Nat.pow 2 32

def number? (bias : Nat) : Nat → Nat → Nat → List Char → Option (Nat × List Char)
  | _, _, _, [] => none
  | k, weight, n, c :: rest => do
    let d ← digitValue? c
    let n := n + d * weight
    guard (n < limit)
    let t := threshold k bias
    if d < t then return (n, rest)
    else
      let weight := weight * (36 - t)
      guard (weight < limit)
      number? bias (k + 36) weight n rest

/-- Reads the insertions, with a step allowance. `code` and `place` say what was inserted last and where
    the next character may stand; `first` tells that none was read yet. -/
def insertions? (output : List Char) (code place bias : Nat) (first : Bool) : Nat → List Char → Option (List Char)
  | _, [] => some output
  | 0, _ => none
  | fuel + 1, cs => do
    let (n, rest) ← number? bias 36 1 place cs
    let count := output.length + 1
    let code := code + n / count
    let here := n % count
    guard (decide code.isValidChar)
    insertions? (output.take here ++ [Char.ofNat code] ++ output.drop here) code (here + 1)
      (adapt (n - place) count first) false fuel rest

/-- The label that is written as `cs`. The ASCII characters, if there are any, stand before the last hyphen. -/
def decode? (cs : List Char) : Option (List Char) :=
  match cs.reverse.dropWhile (· != '-') with
  | _ :: b :: basic => insertions? (b :: basic).reverse 0x80 0 72 true cs.length (cs.drop (basic.length + 2))
  | _ => insertions? [] 0x80 0 72 true cs.length cs

end SecretTemplate.Domain.Punycode
