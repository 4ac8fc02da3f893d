import SecretTemplate.Proofs.Resolution.FixedAnswers

namespace SecretTemplate

open Engine (Shape ShapeFrom ownShape cellOf)

variable {σ : Type} {versions : String → Except StoreError (Option String)}
  {documents : String → Except StoreError (Option Json)}

namespace Engine

theorem ofVersion_eq_ok {path : String} {version : Option String} {shape : Shape}
    (h : Shape.ofVersion path version = .ok shape) (other : String) : Shape.ofVersion other version = .ok shape := by
  unfold Shape.ofVersion at h ⊢
  split at h
  · exact h
  · exact h
  · exact h
  · exact h
  · cases h

theorem classify_eq_ok {path : String} {answer : Except StoreError (Option String)} {shape : Shape}
    (h : classify path answer = .ok shape) (other : String) : classify other answer = .ok shape := by
  cases answer with
  | ok version => exact ofVersion_eq_ok h other
  | error cause =>
    cases cause with
    | notFound => exact h
    | _ => cases h

theorem ShapeFrom.eq_own {paths : List String} {path : String} {result : Except Failure Shape}
    (found : ShapeFrom versions paths path result) (uniform : ∀ p q, mount p = mount q → versions p = versions q) :
    result = ownShape versions path := by
  cases found with
  | own => rfl
  | @shared other shape member same known =>
    have versions_eq := uniform (clean other) (clean path) same
    unfold ownShape at known
    rw [versions_eq] at known
    exact (classify_eq_ok known (clean path)).symm

end Engine

namespace Resolution

/-- The outcomes of references that are fetched one after the other, without anything kept of their mounts. -/
def inTurn (store : Store σ) : List (String × Reference) → Session σ → List (String × Outcome)
  | [], _ => []
  | (placeholder, r) :: rest, s =>
    let (outcome, s) := fetchAlone store r s
    (placeholder, outcome) :: inTurn store rest s

def sequential (store : Store σ) (batch : Batch) (s : Session σ) : Resolution :=
  settled batch (inTurn store batch.entries s)

theorem inTurn_fixed {store : Store σ} (fixed : store.Fixed versions documents) (entries : List (String × Reference))
    (s : Session σ) :
    inTurn store entries s = entries.map fun e => (e.1, ownOutcome versions documents e.2) := by
  induction entries generalizing s with
  | nil => rfl
  | cons e rest ih =>
    have first := fetchAlone_fixed fixed e.2 s
    simp only [inTurn, List.map_cons, first, ih]

theorem Ends.eq_own {references : List Reference} {entries : List (String × Reference)}
    {ends : List (String × Outcome)} (h : Ends (OutcomeFrom versions documents references) entries ends)
    (uniform : ∀ p q, Engine.mount p = Engine.mount q → versions p = versions q) :
    ends = entries.map fun e => (e.1, ownOutcome versions documents e.2) := by
  induction h with
  | nil => rfl
  | @cons entry e _ _ head _ ih =>
    obtain ⟨key, result, found, outcome⟩ := head
    rw [List.map_cons, ← ih, key, ownOutcome, ← found.eq_own uniform, ← outcome]

/-- Against fixed answers in which the version is a matter of the mount, every limit and every interleaving of
    the fetches give the plain resolution: its values, its failures and its count. -/
theorem resolve_eq_sequential {store : Store σ} (fixed : store.Fixed versions documents)
    (uniform : ∀ p q, Engine.mount p = Engine.mount q → versions p = versions q) {placeholders : List String}
    (readable : ∀ p ∈ placeholders, ∃ r, Reference.parse p = .ok r) (limit : Nat) (schedule : List Nat)
    (s : Session σ) :
    ∃ batch, Batch.ofPlaceholders placeholders = .ok batch ∧
      (resolve store limit schedule placeholders s).1 = .ok (sequential store batch s) := by
  obtain ⟨batch, read⟩ := Batch.ofPlaceholders_of_readable readable
  obtain ⟨s', resolved⟩ := resolve_of_readable store limit schedule read s
  obtain ⟨ends, whole, related⟩ := resolveBatch_fixed fixed limit schedule batch s'
  refine ⟨batch, read, ?_⟩
  rw [resolved, whole, sequential, inTurn_fixed fixed, related.eq_own uniform]

theorem resolve_eq_sequential_enveloped :
    let store := Store.ofAnswers (fun path => if Engine.mount path = "kv" then .ok (some "2") else .error .notFound)
      fun path => if path = "kv/data/app" then .ok (some (.object [("data", .object [("pw", .string "s")])]))
        else .ok none
    let placeholders := ["kv/app!pw", "kv/db!pw:none", "other!pw"]
    ∃ batch, Batch.ofPlaceholders placeholders = .ok batch ∧
      (resolve store 2 [0, 1, 0, 1, 0] placeholders ⟨(), []⟩).1 = .ok (sequential store batch ⟨(), []⟩) := by
  refine resolve_eq_sequential (Store.ofAnswers_fixed _ _) ?_ ?_ 2 [0, 1, 0, 1, 0] ⟨(), []⟩
  · intro p q same
    simp only [same]
  · intro p member
    simp only [List.mem_cons, List.not_mem_nil, or_false] at member
    rcases member with rfl | rfl | rfl
    · exact ⟨_, rfl⟩
    · exact ⟨_, rfl⟩
    · exact ⟨_, rfl⟩

end Resolution

end SecretTemplate
