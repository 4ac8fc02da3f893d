import SecretTemplate.Proofs.Batch.Reading
import SecretTemplate.Proofs.Resolution.Answers

namespace SecretTemplate.Resolution

open Engine (Shape ShapeFrom ownShape)

variable {σ : Type} {versions : String → Except StoreError (Option String)}
  {documents : String → Except StoreError (Option Json)}

def outcomeUnder (documents : String → Except StoreError (Option Json)) (r : Reference) :
    Except Failure Shape → Outcome
  | .error cause => .error cause
  | .ok shape => outcome shape r (documents (shape.readPath r.storePath))

def ownOutcome (versions : String → Except StoreError (Option String))
    (documents : String → Except StoreError (Option Json)) (r : Reference) : Outcome :=
  outcomeUnder documents r (ownShape versions r.storePath)

/-- The outcomes that the fetch of a reference can have beside those of `references`. -/
def OutcomeFrom (versions : String → Except StoreError (Option String))
    (documents : String → Except StoreError (Option Json)) (references : List Reference) (r : Reference)
    (outcome : Outcome) : Prop :=
  ∃ result, ShapeFrom versions (references.map (·.storePath)) r.storePath result ∧
    outcome = outcomeUnder documents r result

theorem fetchAlone_fixed {store : Store σ} (fixed : store.Fixed versions documents) (r : Reference) (s : Session σ) :
    (fetchAlone store r s).1 = ownOutcome versions documents r := by
  have answer := fixed.session_mountVersion s (Engine.clean r.storePath)
  unfold fetchAlone ownOutcome ownShape
  simp only [answer]
  cases Engine.classify (Engine.clean r.storePath) (versions (Engine.clean r.storePath)) with
  | error cause => rfl
  | ok shape =>
    have document := fixed.session_read (s.mountVersion store (Engine.clean r.storePath)).2
      (shape.readPath r.storePath)
    simp only [document, outcomeUnder]

theorem CanEnd.outcomeFrom {references : List Reference} {r : Reference} {ended : Outcome}
    (can : CanEnd (.fixed versions documents) references r ended) :
    OutcomeFrom versions documents references r ended := by
  obtain ⟨text, yields, rfl⟩ := can
  cases yields with
  | @refused cause refuses => exact ⟨.error cause, .of_refuses _ refuses, rfl⟩
  | @read shape answer names document =>
    cases document
    exact ⟨.ok shape, .of_names names, rfl⟩

theorem resolveBatch_fixed {store : Store σ} (fixed : store.Fixed versions documents) (limit : Nat)
    (schedule : List Nat) (batch : Batch) (s : Session σ) :
    ∃ ends, (resolveBatch store limit schedule batch s).1 = settled batch ends ∧
      Ends (OutcomeFrom versions documents batch.values) batch.entries ends := by
  refine resolveBatch_settled store limit schedule batch s
    (Progress.Told.ofBatch (.fixed versions documents) batch limit)
    (fun told step => told.step (fixed.gives _) step) ?_
  intro p told f member outcome ended
  obtain ⟨i, here⟩ := List.mem_iff_getElem?.mp member
  exact (told.finished here ended).outcomeFrom

theorem resolve_of_readable (store : Store σ) (limit : Nat) (schedule : List Nat) {placeholders : List String}
    {batch : Batch} (read : Batch.ofPlaceholders placeholders = .ok batch) (s : Session σ) :
    ∃ s', (resolve store limit schedule placeholders s).1 = .ok (resolveBatch store limit schedule batch s').1 :=
  ⟨_, resolve_eq store limit schedule batch s read⟩

end SecretTemplate.Resolution
