import SecretTemplate.Batch
import SecretTemplate.Resolution.Fetch

namespace SecretTemplate.Resolution

open Engine (Shape Lookup Lookups)

inductive Stage
  | queued
  | classifying
  | reading (shape : Shape) (answer : Except StoreError (Option Json))
  | finished (outcome : Outcome)
  deriving Inhabited

structure Fetch where
  placeholder : String
  reference : Reference
  stage : Stage := .queued
  deriving Inhabited

namespace Fetch

def isQueued (f : Fetch) : Bool :=
  match f.stage with
  | .queued => true
  | _ => false

def isFinished (f : Fetch) : Bool :=
  match f.stage with
  | .finished _ => true
  | _ => false

def isRunning (f : Fetch) : Bool := !f.isQueued && !f.isFinished

end Fetch

/-- Fetches under way. The lookup `i` belongs to the fetch `i`. -/
structure Progress (σ : Type) where
  fetches : List Fetch
  lookups : Lookups σ
  limit : Nat
  outcomes : List (String × Outcome) := []

namespace Progress

variable {σ : Type}

def ofBatch (batch : Batch) (limit : Nat) (session : Session σ) : Progress σ where
  fetches := batch.entries.map fun (placeholder, reference) => { placeholder, reference }
  lookups := { lookups := batch.entries.map fun (_, r) => { path := r.storePath }, session }
  limit := max 1 limit

def session (p : Progress σ) : Session σ := p.lookups.session

def withSession (p : Progress σ) (session : Session σ) : Progress σ :=
  { p with lookups := { p.lookups with session } }

def setStage (p : Progress σ) (i : Nat) (stage : Stage) : Progress σ :=
  { p with fetches := p.fetches.modify i fun f => { f with stage } }

def finish (p : Progress σ) (i : Nat) (placeholder : String) (outcome : Outcome) : Progress σ :=
  { p.setStage i (.finished outcome) with outcomes := p.outcomes ++ [(placeholder, outcome)] }

/-- The fetch `i` may start: all before it have started, and fewer than the limit are running. -/
def mayStart (p : Progress σ) (i : Nat) : Bool :=
  (p.fetches.take i).all (!·.isQueued) && (p.fetches.filter (·.isRunning)).length < p.limit

def advance (store : Store σ) (p : Progress σ) (i : Nat) : Option (Progress σ) :=
  match p.fetches[i]? with
  | none => none
  | some f =>
    match f.stage with
    | .finished _ => none
    | .queued => if p.mayStart i then some (p.setStage i .classifying) else none
    | .classifying =>
      match p.lookups.result? i with
      | none => (p.lookups.advance store i).map fun lookups => { p with lookups }
      | some (.error cause) => some (p.finish i f.placeholder (.error cause))
      | some (.ok shape) =>
        let s := p.session.log [readNotice shape f.reference]
        let (answer, s) := s.read store (shape.readPath f.reference.storePath)
        some ((p.withSession s).setStage i (.reading shape answer))
    | .reading shape answer =>
      let s := p.session.log (outcomeNotices shape f.reference answer)
      some ((p.withSession s).finish i f.placeholder (outcome shape f.reference answer))

def step (store : Store σ) (p : Progress σ) (i : Nat) : Progress σ :=
  (p.advance store i).getD p

def run (store : Store σ) (p : Progress σ) (schedule : List Nat) : Progress σ :=
  schedule.foldl (step store) p

/-- The fetches that are running or next to start. -/
def window (p : Progress σ) : List Nat :=
  ((p.fetches.zipIdx.filter (!·.1.isFinished)).map (·.2)).take p.limit

def rounds (store : Store σ) : Nat → Progress σ → Progress σ
  | 0, p => p
  | n + 1, p =>
    match p.window with
    | [] => p
    | window => rounds store n (p.run store window)

/-- Brings all fetches to their end. A fetch takes five steps at most, and some fetch moves in every
    round. -/
def complete (store : Store σ) (p : Progress σ) : Progress σ :=
  rounds store (5 * p.fetches.length) p

end Progress

end SecretTemplate.Resolution
