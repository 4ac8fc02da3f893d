import SecretTemplate.Reference

namespace SecretTemplate.Reference

variable {cs : List Char} {r : Reference}

theorem splitKey_parts (cs : List Char) :
    ':' ∉ (splitKey cs).1 ∧
      (':' ∈ cs ∧ cs = (splitKey cs).1 ++ ':' :: (splitKey cs).2 ∨
        ':' ∉ cs ∧ cs = (splitKey cs).1 ∧ (splitKey cs).2 = []) := by
  unfold splitKey
  cases separated : Text.splitFirst ':' cs with
  | none =>
    have free := Text.splitFirst_eq_none.mp separated
    exact ⟨free, .inr ⟨free, rfl, rfl⟩⟩
  | some parts =>
    obtain ⟨whole, free⟩ := Text.splitFirst_eq_some.mp separated
    exact ⟨free, .inl ⟨whole ▸ List.mem_append_right _ (List.mem_cons_self ..), whole⟩⟩

theorem key_ne_nil_iff : (splitKey cs).1 ≠ [] ↔ cs ≠ [] ∧ cs.head? ≠ some ':' := by
  obtain ⟨free, ⟨-, whole⟩ | ⟨-, whole, -⟩⟩ := splitKey_parts cs
  · generalize (splitKey cs).1 = key at free whole ⊢
    rw [whole]
    cases key with
    | nil => simp
    | cons c rest =>
      have other : c ≠ ':' := fun same => free (same ▸ List.mem_cons_self ..)
      simp [other]
  · rw [← whole] at free ⊢
    refine ⟨fun nonempty => ⟨nonempty, fun colon => ?_⟩, fun nonempty => nonempty.1⟩
    exact free (List.mem_of_head? colon)

theorem parseBare_eq_ok_iff :
    parseBare cs = .ok r ↔ ∃ path rest, cs = path ++ '!' :: rest ∧ '!' ∉ path ∧ Text.trim path ≠ [] ∧
      (splitKey rest).1 ≠ [] ∧ ofChars path (splitKey rest).1 (splitKey rest).2 = r := by
  unfold parseBare
  cases separated : Text.splitFirst '!' cs with
  | none =>
    have free := Text.splitFirst_eq_none.mp separated
    constructor
    · intro wrong
      cases wrong
    · rintro ⟨path, rest, rfl, -⟩
      simp at free
  | some parts =>
    obtain ⟨path, rest⟩ := parts
    obtain ⟨whole, first⟩ := Text.splitFirst_eq_some.mp separated
    have unique (path' rest' : List Char) (whole' : cs = path' ++ '!' :: rest') (first' : '!' ∉ path') :
        path' = path ∧ rest' = rest := by
      have again := separated.symm.trans (Text.splitFirst_eq_some.mpr ⟨whole', first'⟩)
      cases again
      exact ⟨rfl, rfl⟩
    dsimp only
    constructor
    · intro parsed
      split at parsed
      · cases parsed
      · split at parsed
        · cases parsed
        · rename_i named keyed
          cases parsed
          exact ⟨path, rest, whole, first, by simpa using named, by simpa using keyed, rfl⟩
    · rintro ⟨path', rest', whole', first', named, keyed, rfl⟩
      obtain ⟨rfl, rfl⟩ := unique path' rest' whole' first'
      rw [if_neg (by simpa using named), if_neg (by simpa using keyed)]

theorem storePath_ne_empty (parsed : parseBare cs = .ok r) : r.storePath ≠ "" := by
  obtain ⟨path, rest, -, -, named, -, rfl⟩ := parseBare_eq_ok_iff.mp parsed
  intro empty
  rw [String.ofList_injective empty] at named
  exact named rfl

/-- How a reference is written: its path, its key, and its fallback if there is a colon after the path. -/
structure Spells (cs : List Char) (r : Reference) : Prop where
  path : '!' ∉ r.storePath.toList
  key : r.fieldKey ≠ ""
  keyed : ':' ∉ r.fieldKey.toList
  value : r.value = r.fallback
  parts : ∃ rest, cs = r.storePath.toList ++ '!' :: rest ∧
    (':' ∈ rest ∧ rest = r.fieldKey.toList ++ ':' :: r.fallback.toList ∨
      ':' ∉ rest ∧ rest = r.fieldKey.toList ∧ r.fallback = "")

theorem spells_of_parseBare (parsed : parseBare cs = .ok r) : Spells cs r := by
  obtain ⟨path, rest, whole, first, -, keyed, rfl⟩ := parseBare_eq_ok_iff.mp parsed
  obtain ⟨free, parts⟩ := splitKey_parts rest
  generalize (splitKey rest).1 = key at keyed free parts ⊢
  generalize (splitKey rest).2 = fallback at parts ⊢
  refine ⟨?_, fun empty => keyed (String.ofList_injective empty), ?_, rfl, rest, ?_, ?_⟩
  · simpa [ofChars] using first
  · simpa [ofChars] using free
  · simpa [ofChars] using whole
  · rcases parts with ⟨colon, parts⟩ | ⟨plain, parts, none⟩
    · exact .inl ⟨colon, by simpa [ofChars] using parts⟩
    · exact .inr ⟨plain, by simpa [ofChars] using parts, by rw [none]; rfl⟩

end SecretTemplate.Reference
