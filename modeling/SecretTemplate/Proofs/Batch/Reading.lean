import SecretTemplate.Batch
import SecretTemplate.Proofs.Keyed.Access

namespace SecretTemplate.Batch

theorem value_parse {placeholder : String} {r : Reference} (parsed : Reference.parse placeholder = .ok r) :
    r.value = r.fallback := by
  unfold Reference.parse Reference.parseBare at parsed
  split at parsed
  · cases parsed
  · dsimp only at parsed
    split at parsed
    · cases parsed
    · split at parsed
      · cases parsed
      · cases parsed
        rfl

theorem value_read (placeholder : String) :
    (Reference.read placeholder).value =
      (Reference.parse placeholder).mapError fun fault => .malformedReference placeholder fault.message := by
  unfold Reference.read
  cases Reference.parse placeholder <;> rfl

theorem extend_cons (batch : Batch) (p : String) (ps : List String) :
    (extend batch (p :: ps)).value =
      if batch.contains p then (extend batch ps).value
      else match Reference.parse p with
        | .error fault => .error (.unusablePlaceholder p (.malformedReference p fault.message))
        | .ok r => (extend (batch.insert p r) ps).value := by
  have read := value_read p
  simp only [extend]
  split
  · rfl
  · cases parsed : Reference.parse p with
    | error fault =>
      rw [parsed] at read
      simp only [read, Except.mapError]
    | ok r =>
      rw [parsed] at read
      simp only [read, Except.mapError]

theorem extend_of_readable {placeholders : List String}
    (readable : ∀ p ∈ placeholders, ∃ r, Reference.parse p = .ok r) (batch : Batch) :
    ∃ result, (extend batch placeholders).value = .ok result := by
  induction placeholders generalizing batch with
  | nil => exact ⟨batch, rfl⟩
  | cons p ps ih =>
    have later := ih fun q member => readable q (List.mem_cons_of_mem _ member)
    rw [extend_cons]
    split
    · exact later batch
    · obtain ⟨r, parsed⟩ := readable p (List.mem_cons_self ..)
      rw [parsed]
      exact later (batch.insert p r)

theorem get?_extend {placeholders : List String} {batch result : Batch}
    (h : (extend batch placeholders).value = .ok result) (key : String) (r : Reference) :
    result.get? key = some r ↔
      batch.get? key = some r ∨ batch.get? key = none ∧ key ∈ placeholders ∧ Reference.parse key = .ok r := by
  induction placeholders generalizing batch with
  | nil =>
    cases h
    simp
  | cons p ps ih =>
    rw [extend_cons] at h
    split at h
    · rename_i known
      rw [ih h]
      obtain ⟨old, found⟩ := Keyed.contains_iff.mp known
      by_cases same : key = p
      · subst same
        simp [found]
      · simp [same]
    · rename_i unknown
      have absent : batch.get? p = none := by simpa [Keyed.contains] using unknown
      cases parsed : Reference.parse p with
      | error fault =>
        rw [parsed] at h
        cases h
      | ok new =>
        rw [parsed] at h
        rw [ih h, Keyed.get?_insert]
        by_cases same : key = p
        · subst same
          simp [absent, parsed]
        · simp [same]

theorem contains_of_extend {placeholders : List String} {batch result : Batch}
    (h : (extend batch placeholders).value = .ok result) {p : String} (member : p ∈ placeholders) :
    ∃ r, result.get? p = some r := by
  induction placeholders generalizing batch with
  | nil => cases member
  | cons q qs ih =>
    rw [extend_cons] at h
    split at h
    · rename_i known
      rcases List.mem_cons.mp member with rfl | member
      · obtain ⟨old, found⟩ := Keyed.contains_iff.mp known
        exact ⟨old, (get?_extend h p old).mpr (.inl found)⟩
      · exact ih h member
    · cases parsed : Reference.parse q with
      | error fault =>
        rw [parsed] at h
        cases h
      | ok new =>
        rw [parsed] at h
        rcases List.mem_cons.mp member with rfl | member
        · exact ⟨new, (get?_extend h p new).mpr (.inl (by simp))⟩
        · exact ih h member

theorem extend_append (batch : Batch) (before after : List String) :
    (extend batch (before ++ after)).value =
      (extend batch before).value.bind fun known => (extend known after).value := by
  induction before generalizing batch with
  | nil => rfl
  | cons p ps ih =>
    rw [List.cons_append, extend_cons, extend_cons]
    split
    · exact ih batch
    · cases Reference.parse p with
      | error fault => rfl
      | ok r => exact ih (batch.insert p r)

theorem ofPlaceholders_of_readable {placeholders : List String}
    (readable : ∀ p ∈ placeholders, ∃ r, Reference.parse p = .ok r) :
    ∃ batch, ofPlaceholders placeholders = .ok batch :=
  extend_of_readable readable ∅

theorem get?_ofPlaceholders {placeholders : List String} {batch : Batch}
    (h : ofPlaceholders placeholders = .ok batch) (key : String) (r : Reference) :
    batch.get? key = some r ↔ key ∈ placeholders ∧ Reference.parse key = .ok r := by
  rw [get?_extend h]
  simp

theorem mem_keys_ofPlaceholders {placeholders : List String} {batch : Batch}
    (h : ofPlaceholders placeholders = .ok batch) (key : String) : key ∈ batch.keys ↔ key ∈ placeholders := by
  rw [Keyed.mem_keys_iff]
  constructor
  · rintro ⟨r, found⟩
    exact ((get?_ofPlaceholders h key r).mp found).1
  · exact contains_of_extend h

theorem readable_of_ofPlaceholders {placeholders : List String} {batch : Batch}
    (h : ofPlaceholders placeholders = .ok batch) : ∀ p ∈ placeholders, ∃ r, Reference.parse p = .ok r := by
  intro p member
  obtain ⟨r, found⟩ := contains_of_extend h member
  exact ⟨r, ((get?_ofPlaceholders h p r).mp found).2⟩

theorem readable_or_malformed (placeholders : List String) :
    (∀ p ∈ placeholders, ∃ r, Reference.parse p = .ok r) ∨
      ∃ before p after fault, placeholders = before ++ p :: after ∧ (∀ q ∈ before, ∃ r, Reference.parse q = .ok r) ∧
        Reference.parse p = .error fault := by
  induction placeholders with
  | nil => exact .inl (by simp)
  | cons p ps ih =>
    cases parsed : Reference.parse p with
    | error fault => exact .inr ⟨[], p, ps, fault, rfl, by simp, parsed⟩
    | ok r =>
      rcases ih with readable | ⟨before, q, after, fault, rfl, readable, malformed⟩
      · exact .inl (List.forall_mem_cons.mpr ⟨⟨r, parsed⟩, readable⟩)
      · exact .inr ⟨p :: before, q, after, fault, rfl, List.forall_mem_cons.mpr ⟨⟨r, parsed⟩, readable⟩, malformed⟩

theorem ofPlaceholders_of_malformed {before after : List String} {p : String} {fault : Reference.Fault}
    (readable : ∀ q ∈ before, ∃ r, Reference.parse q = .ok r) (malformed : Reference.parse p = .error fault) :
    ofPlaceholders (before ++ p :: after) = .error (.unusablePlaceholder p (.malformedReference p fault.message)) := by
  obtain ⟨known, read⟩ := ofPlaceholders_of_readable readable
  -- What a batch knows can be read, so the placeholder is not passed over as one that came before.
  have unknown : ¬known.contains p = true := by
    intro contained
    obtain ⟨r, found⟩ := Keyed.contains_iff.mp contained
    cases malformed.symm.trans ((get?_ofPlaceholders read p r).mp found).2
  calc ofPlaceholders (before ++ p :: after)
    _ = (ofPlaceholders before).bind fun known => (extend known (p :: after)).value := extend_append ∅ before _
    _ = (extend known (p :: after)).value := by rw [read]; rfl
    _ = _ := by rw [extend_cons, if_neg unknown, malformed]

theorem ofPlaceholders_eq_error {placeholders : List String} {cause : Failure}
    (h : ofPlaceholders placeholders = .error cause) :
    ∃ p ∈ placeholders, ∃ fault, Reference.parse p = .error fault ∧
      cause = .unusablePlaceholder p (.malformedReference p fault.message) := by
  rcases readable_or_malformed placeholders with readable | ⟨before, p, after, fault, rfl, readable, malformed⟩
  · obtain ⟨batch, read⟩ := ofPlaceholders_of_readable readable
    cases h.symm.trans read
  · rw [ofPlaceholders_of_malformed readable malformed] at h
    cases h
    exact ⟨p, by simp, fault, malformed, rfl⟩

end SecretTemplate.Batch
