import SecretTemplate.Proofs.Batch.Reading
import SecretTemplate.Proofs.Placeholder.Tokens

namespace SecretTemplate.Placeholder

open Reference (Spells parseBare)
open Text.Utf8 (Bytes encode)

/-- The text between the delimiters of a placeholder, without the white space around it. -/
def tokenOf (placeholder : String) : List Char :=
  Text.trim (placeholder.toList.drop 2).dropLast.dropLast

theorem tokenOf_braced {placeholder : String} {lead token trail : List Char}
    (leading : ∀ c ∈ lead, Text.isBlank c = true) (inner : ∀ c ∈ token, Text.isBlank c = false)
    (trailing : ∀ c ∈ trail, Text.isBlank c = true)
    (braced : placeholder.toList = ['{', '{'] ++ (lead ++ token ++ trail) ++ ['}', '}']) :
    tokenOf placeholder = token := by
  have between : (placeholder.toList.drop 2).dropLast.dropLast = lead ++ token ++ trail := by simp [braced]
  rw [tokenOf, between]
  exact Text.strip_between leading inner trailing

/-- A placeholder is its token in braces, with white space around it. -/
structure Wraps (placeholder : String) (lead token trail : List Char) : Prop where
  leading : ∀ c ∈ lead, Text.isBlank c = true
  inner : ∀ c ∈ token, Text.isBlank c = false ∧ c ≠ '{' ∧ c ≠ '}'
  trailing : ∀ c ∈ trail, Text.isBlank c = true
  braced : placeholder.toList = ['{', '{'] ++ (lead ++ token ++ trail) ++ ['}', '}']

theorem wraps_of_mem_find {template : Bytes} {p : String} (member : p ∈ find template) :
    ∃ lead trail, Wraps p lead (tokenOf p) trail := by
  obtain ⟨lead, token, trail, leading, inner, trailing, span⟩ := written_of_mem_find member
  rw [← encode_braced] at span
  have braced := congrArg String.toList (encode_injective span)
  rw [String.toList_ofList] at braced
  have same := tokenOf_braced leading (fun c inside => (inner c inside).1) trailing braced
  exact ⟨lead, trail, leading, same ▸ inner, trailing, same ▸ braced⟩

theorem Wraps.unwrap {p : String} {lead token trail : List Char} (wraps : Wraps p lead token trail) :
    Reference.unwrap p.toList = token := by
  rw [wraps.braced]
  exact unwrap_braced wraps.leading wraps.inner wraps.trailing

/-- A token that names a path and a key. -/
def NamesField (token : List Char) : Prop :=
  ∃ path rest, token = path ++ '!' :: rest ∧ '!' ∉ path ∧ path ≠ [] ∧ rest ≠ [] ∧ rest.head? ≠ some ':'

theorem parseBare_iff_namesField {token : List Char} (inner : ∀ c ∈ token, Text.isBlank c = false) :
    (∃ r, parseBare token = .ok r) ↔ NamesField token := by
  have trimmed {path rest : List Char} (whole : token = path ++ rest) : Text.trim path = path :=
    Text.strip_of_neg fun c inside => inner c (whole ▸ List.mem_append_left _ inside)
  constructor
  · rintro ⟨r, parsed⟩
    obtain ⟨path, rest, whole, first, named, keyed, -⟩ := Reference.parseBare_eq_ok_iff.mp parsed
    rw [trimmed whole] at named
    obtain ⟨nonempty, uncoloned⟩ := Reference.key_ne_nil_iff.mp keyed
    exact ⟨path, rest, whole, first, named, nonempty, uncoloned⟩
  · rintro ⟨path, rest, whole, first, named, nonempty, uncoloned⟩
    have keyed := Reference.key_ne_nil_iff.mpr ⟨nonempty, uncoloned⟩
    rw [← trimmed whole] at named
    exact ⟨_, Reference.parseBare_eq_ok_iff.mpr ⟨path, rest, whole, first, named, keyed, rfl⟩⟩

/-- What is read from an extracted placeholder is what its token spells. It is refused, with its own text, exactly
    when the token does not name a path and a key. -/
theorem read_extracted {template : Bytes} {p : String} (member : p ∈ find template) :
    (∃ lead trail, Wraps p lead (tokenOf p) trail) ∧
    ((∃ r, (Reference.read p).value = .ok r) ↔ NamesField (tokenOf p)) ∧
    (∀ r, (Reference.read p).value = .ok r → Spells (tokenOf p) r) ∧
    (¬ NamesField (tokenOf p) → ∃ reason, (Reference.read p).value = .error (.malformedReference p reason)) := by
  obtain ⟨lead, trail, wraps⟩ := wraps_of_mem_find member
  have parsed : Reference.parse p = parseBare (tokenOf p) := by rw [Reference.parse, wraps.unwrap]
  have value := Batch.value_read p
  rw [parsed] at value
  have readable : (∃ r, (Reference.read p).value = .ok r) ↔ ∃ r, parseBare (tokenOf p) = .ok r := by
    rw [value]
    cases parseBare (tokenOf p) <;> simp [Except.mapError]
  have named := parseBare_iff_namesField fun c inside => (wraps.inner c inside).1
  refine ⟨⟨lead, trail, wraps⟩, readable.trans named, ?_, ?_⟩
  · intro r read
    rw [value] at read
    cases bare : parseBare (tokenOf p) with
    | error fault =>
      rw [bare] at read
      cases read
    | ok r' =>
      rw [bare] at read
      cases read
      exact Reference.spells_of_parseBare bare
  · intro unnamed
    cases bare : parseBare (tokenOf p) with
    | error fault =>
      rw [value, bare]
      exact ⟨fault.message, rfl⟩
    | ok r => exact (unnamed (named.mp ⟨r, bare⟩)).elim

theorem read_extracted_two_placeholders :
    "{{ db!url:a!b:c}}" ∈ find (encode "x={{ db!url:a!b:c}} {{db!:y}}") ∧
      (∃ r, (Reference.read "{{ db!url:a!b:c}}").value = .ok r ∧ Spells "db!url:a!b:c".toList r) ∧
      ∃ reason, (Reference.read "{{db!:y}}").value = .error (.malformedReference "{{db!:y}}" reason) := by
  have first : "{{ db!url:a!b:c}}" ∈ find (encode "x={{ db!url:a!b:c}} {{db!:y}}") := by decide +kernel
  have second : "{{db!:y}}" ∈ find (encode "x={{ db!url:a!b:c}} {{db!:y}}") := by decide +kernel
  obtain ⟨-, readable, spells, -⟩ := read_extracted first
  obtain ⟨-, -, -, refused⟩ := read_extracted second
  obtain ⟨r, read⟩ := readable.mpr ⟨"db".toList, "url:a!b:c".toList, by decide +kernel⟩
  refine ⟨first, ⟨r, read, ?_⟩, refused ?_⟩
  · have token : tokenOf "{{ db!url:a!b:c}}" = "db!url:a!b:c".toList := by decide +kernel
    exact token ▸ spells r read
  · rintro ⟨path, rest, whole, free, -, -, uncoloned⟩
    have split : Text.splitFirst '!' (tokenOf "{{db!:y}}") = some ("db".toList, ":y".toList) := by decide +kernel
    cases split.symm.trans (Text.splitFirst_eq_some.mpr ⟨whole, free⟩)
    exact uncoloned (by decide)

end SecretTemplate.Placeholder
