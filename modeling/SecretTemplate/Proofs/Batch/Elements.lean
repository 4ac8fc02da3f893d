import SecretTemplate.Proofs.Batch.Reading
import SecretTemplate.Proofs.Text.Order

namespace SecretTemplate.Batch

open Text.Utf8 (encode)

variable {placeholders : List String}

/-- The batch of a list and of every other list of the same placeholders. -/
structure StandsFor (batch : Batch) (placeholders : List String) : Prop where
  keys : ∀ p, p ∈ batch.keys ↔ p ∈ placeholders
  found : ∀ p r, batch.get? p = some r ↔ p ∈ placeholders ∧ Reference.parse p = .ok r
  listed : ∀ p r, (p, r) ∈ batch.entries ↔ batch.get? p = some r
  ordered : batch.entries.Pairwise fun e later => encode e.1 < encode later.1
  same : ∀ others, ofPlaceholders others = .ok batch ↔ ∀ p, p ∈ others ↔ p ∈ placeholders

theorem ofPlaceholders_of_same {others : List String} {batch : Batch} (read : ofPlaceholders placeholders = .ok batch)
    (same : ∀ p, p ∈ others ↔ p ∈ placeholders) : ofPlaceholders others = .ok batch := by
  have readable := readable_of_ofPlaceholders read
  obtain ⟨result, result_read⟩ := ofPlaceholders_of_readable fun p member => readable p ((same p).mp member)
  have equal : result = batch := by
    refine Keyed.ext_get? fun key => Option.ext fun r => ?_
    rw [get?_ofPlaceholders result_read, get?_ofPlaceholders read, same]
  rw [result_read, equal]

theorem standsFor_of_read {batch : Batch} (read : ofPlaceholders placeholders = .ok batch) :
    StandsFor batch placeholders where
  keys := mem_keys_ofPlaceholders read
  found := get?_ofPlaceholders read
  listed _ _ := Keyed.get?_eq_some_iff.symm
  ordered := batch.ordered_entries
  same others := by
    refine ⟨fun again p => ?_, ofPlaceholders_of_same read⟩
    rw [← mem_keys_ofPlaceholders again, mem_keys_ofPlaceholders read]

/-- A list is read exactly if each of its placeholders is, and then it is read as the set of them. Otherwise it fails
    with the failure of the first placeholder that cannot be read. -/
theorem ofPlaceholders_elements (placeholders : List String) :
    ((∃ batch, ofPlaceholders placeholders = .ok batch) ↔ ∀ p ∈ placeholders, ∃ r, Reference.parse p = .ok r) ∧
    (∀ batch, ofPlaceholders placeholders = .ok batch → StandsFor batch placeholders) ∧
    ((∃ p ∈ placeholders, ∃ fault, Reference.parse p = .error fault) →
      ∃ before p after fault, placeholders = before ++ p :: after ∧ (∀ q ∈ before, ∃ r, Reference.parse q = .ok r) ∧
        Reference.parse p = .error fault ∧ (Reference.read p).value = .error (.malformedReference p fault.message) ∧
        ofPlaceholders placeholders = .error (.unusablePlaceholder p (.malformedReference p fault.message))) := by
  refine ⟨⟨fun ⟨_, read⟩ => readable_of_ofPlaceholders read, ofPlaceholders_of_readable⟩,
    fun batch read => standsFor_of_read read, fun ⟨p, member, fault, malformed⟩ => ?_⟩
  rcases readable_or_malformed placeholders with readable | ⟨before, first, after, fault, rfl, readable, malformed⟩
  · obtain ⟨r, parsed⟩ := readable p member
    cases malformed.symm.trans parsed
  · refine ⟨before, first, after, fault, rfl, readable, malformed, ?_, ofPlaceholders_of_malformed readable malformed⟩
    rw [value_read, malformed]
    rfl

example :
    (ofPlaceholders ["b!k", "a!k:x", "b!k"]).toOption.map (·.entries) =
        some [("a!k:x", ⟨"a", "k", "x", "x"⟩), ("b!k", ⟨"b", "k", "", ""⟩)] ∧
      (ofPlaceholders ["b!k", "b", "b!k", "a"]).toOption.isNone := by
  decide +kernel

end SecretTemplate.Batch
