import SecretTemplate.Proofs.Resolution.Places
import SecretTemplate.Proofs.Resolution.Results

namespace SecretTemplate.Resolution

open Engine (Shape)

variable {σ : Type} {store : Store σ} {start finish : σ} {told : List Happening} {batch : Batch} {p : String}
  {r : Reference} {shape : Shape}

theorem Replies.of_read {before after : List Happening} {e : Happening} {document : Except StoreError (Option Json)}
    (replies : Replies store start told finish) (whole : told = before ++ e :: after)
    (read : e.deed = .read shape document) :
    ∃ state, Replies store start before state ∧
      document = (store.read (shape.readPath e.reference.storePath) state).answer := by
  induction replies generalizing after with
  | nil => simp at whole
  | asked replies i placeholder r ih =>
    rcases split_concat whole with ⟨-, rfl, -⟩ | ⟨later, -, front⟩
    · cases read
    · exact ih front
  | read replies i placeholder r known ih =>
    rcases split_concat whole with ⟨rfl, rfl, -⟩ | ⟨later, -, front⟩
    · cases read
      exact ⟨_, replies, rfl⟩
    · exact ih front
  | silent replies uncalled ih =>
    rcases split_concat whole with ⟨-, rfl, -⟩ | ⟨later, -, front⟩
    · simp [Happening.call?, read] at uncalled
    · exact ih front

theorem Passed.mem_read {deeds : List Deed} (passed : Passed r deeds) (gets : shape ∈ deeds.filterMap Deed.shape?) :
    ∃ document, .read shape document ∈ deeds := by
  cases passed with
  | refused => cases gets
  | @asked answer own classified document =>
    have same : shape ∈ [own] := gets
    cases List.mem_singleton.mp same
    exact ⟨document, by simp⟩
  | shared own document =>
    have same : shape ∈ [own] := gets
    cases List.mem_singleton.mp same
    exact ⟨document, by simp⟩

theorem Orderly.account (orderly : Orderly store batch told start finish) (known : batch.get? p = some r)
    {result : Result} (ended : (p, result) ∈ results told) :
    Account (ofOutcomes batch (told.filterMap Happening.outcome?)) p r (kept result) := by
  rw [orderly.ofOutcomes_results]
  apply account_settled known
  · rw [lookup_map, (lookup_eq_some_iff orderly.results_nodup).mpr ended]
    rfl
  · intro text fetched
    exact nonempty_of_kept fetched

theorem Orderly.account_of_read (orderly : Orderly store batch told start finish) (known : batch.get? p = some r)
    (classified : Classified told p shape) :
    ∃ before e after state, told = before ++ e :: after ∧ e.placeholder = p ∧ Replies store start before state ∧
      e.deed = .read shape (store.read (shape.readPath r.storePath) state).answer ∧
      Account (ofOutcomes batch (told.filterMap Happening.outcome?)) p r
        (outcome shape r (store.read (shape.readPath r.storePath) state).answer) := by
  obtain ⟨e, member, same, gets⟩ := classified
  have shapes : shape ∈ ((told.filter (·.placeholder = p)).map (·.deed)).filterMap Deed.shape? :=
    List.mem_filterMap.mpr ⟨e.deed, mem_deeds_iff.mpr ⟨e, member, same, rfl⟩, gets⟩
  obtain ⟨document, listed⟩ := (orderly.passed p r known).mem_read shapes
  obtain ⟨e, member, placeholder, read⟩ := mem_deeds_iff.mp listed
  have own := orderly.own known e member placeholder
  obtain ⟨before, after, whole⟩ := List.append_of_mem member
  obtain ⟨state, replies, answered⟩ := orderly.replies.of_read whole read
  have result : (p, fieldText shape r document) ∈ results told :=
    List.mem_filterMap.mpr ⟨e, member, by rw [Happening.result?, read, placeholder, own]⟩
  rw [own] at answered
  rw [answered] at read result
  exact ⟨before, e, after, state, whole, placeholder, replies, read, orderly.account known result⟩

end SecretTemplate.Resolution
