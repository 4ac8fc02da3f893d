import SecretTemplate.Text.Hex
import SecretTemplate.Text.Trim

namespace SecretTemplate.Text

def words (text : String) : List (List Char) :=
  let (word, words) := text.toList.foldl (fun (word, words) c =>
    if c = ' ' || c = '\n' then ([], word.reverse :: words) else (c :: word, words)) ([], [])
  (word.reverse :: words).reverse.filter (!·.isEmpty)

def code (digits : List Char) : Nat :=
  digits.foldl (fun n c => n * 16 + (hexValue? c).getD 0) 0

def codes (word : List Char) : Nat × Nat :=
  match splitFirst '-' word with
  | some (first, last) => (code first, code last)
  | none => (code word, code word)

structure Ranges where
  bounds : List (Nat × Nat)
  deriving DecidableEq, Repr, Inhabited

namespace Ranges

def ofText (text : String) : Ranges := ⟨(words text).map codes⟩

def contains (r : Ranges) (c : Char) : Bool :=
  r.bounds.any fun (first, last) => first ≤ c.toNat && c.toNat ≤ last

end Ranges

/-- A sequence for each character from `first` to `last` at distances that `step` divides. The target is
    that of `first`; the targets of the others are as far from it as they are from `first`. -/
structure Replacement where
  first : Nat
  last : Nat
  step : Nat
  target : List Nat
  deriving DecidableEq, Repr, Inhabited

def Replacement.concerns (r : Replacement) (c : Char) : Bool :=
  r.first ≤ c.toNat && c.toNat ≤ r.last && (c.toNat - r.first) % r.step == 0

def Replacement.apply (r : Replacement) (c : Char) : List Char :=
  r.target.map fun n => Char.ofNat (n + (c.toNat - r.first))

abbrev Replacements := List Replacement

namespace Replacements

/-- Reads a word such as `1F1=64+7A`, `C0-D6=E0` or `100-12E/2=101`. A target alone is that of the
    character `next`. -/
def word (next : Nat) (cs : List Char) : Replacement :=
  let target (cs : List Char) := (splitAll '+' cs).map code
  match splitFirst '=' cs with
  | none => ⟨next, next, 1, target cs⟩
  | some (range, cs) =>
    let (range, step) := (splitFirst '/' range).getD (range, ['1'])
    let (first, last) := codes range
    ⟨first, last, code step, target cs⟩

def ofText (text : String) : Replacements :=
  ((words text).foldl (fun (next, known) cs =>
    let r := word next cs
    (r.last + 1, r :: known)) (0, [])).2.reverse

def get? (rs : Replacements) (c : Char) : Option (List Char) :=
  (rs.find? (·.concerns c)).map (·.apply c)

end Replacements

end SecretTemplate.Text
