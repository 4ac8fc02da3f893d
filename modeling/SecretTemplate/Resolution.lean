import SecretTemplate.Resolution.Progress

namespace SecretTemplate

/-- A resolved batch. References whose fetch failed, or gave an empty value, keep their fallback. -/
structure Resolution where
  batch : Batch
  failures : Keyed Failure
  resolved : Nat

namespace Resolution

def failure? (r : Resolution) : Option Failure :=
  if r.failures.isEmpty then none
  else some (.partialResolution (r.failures.values.map Failure.message))

def record (r : Resolution) (placeholder : String) : Outcome → Resolution
  | .ok (some value) => { r with batch := r.batch.setValue placeholder value, resolved := r.resolved + 1 }
  | .ok none => r
  | .error cause => { r with failures := r.failures.insert placeholder cause }

def recordNotices (placeholder : String) : Outcome → List Event
  | .error cause => [⟨.warn, .resolution, "Could not resolve " ++ placeholder ++ ": " ++ cause.message⟩]
  | .ok _ => []

def ofOutcomes (batch : Batch) (outcomes : List (String × Outcome)) : Resolution :=
  outcomes.foldl (fun r (placeholder, outcome) => r.record placeholder outcome) ⟨batch, ∅, 0⟩

def beginNotice (batch : Batch) (store : String) : Event :=
  ⟨.info, .resolution, "Resolving " ++ toString batch.size ++ " secret reference(s) via " ++ store⟩

def endNotice (r : Resolution) : Event :=
  ⟨.info, .resolution, "Secret resolution complete: " ++ toString r.resolved ++ " resolved, " ++
    toString r.failures.size ++ " failed"⟩

end Resolution

variable {σ : Type}

/-- Resolves the references of a batch. The fetches first follow the schedule, as far as it can be
    followed, and then come to their end in turn. -/
def resolveBatch (store : Store σ) (limit : Nat) (schedule : List Nat) (batch : Batch) (s : Session σ) :
    Resolution × Session σ :=
  let s := s.log [Resolution.beginNotice batch store.name]
  let p := ((Resolution.Progress.ofBatch batch limit s).run store schedule).complete store
  let r := Resolution.ofOutcomes batch p.outcomes
  let notices := p.outcomes.flatMap fun (placeholder, outcome) => Resolution.recordNotices placeholder outcome
  (r, (p.session.log notices).log [r.endNotice])

/-- Resolves a list of placeholders. Only a placeholder that cannot be read makes this fail. -/
def resolve (store : Store σ) (limit : Nat) (schedule : List Nat) (placeholders : List String) (s : Session σ) :
    Except Failure Resolution × Session σ :=
  let ⟨batch, events⟩ := Batch.read placeholders
  let s := s.log events
  match batch with
  | .error cause => (.error cause, s)
  | .ok batch =>
    let (r, s) := resolveBatch store limit schedule batch s
    (.ok r, s)

end SecretTemplate
