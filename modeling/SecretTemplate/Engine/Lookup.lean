import SecretTemplate.Engine.Shape
import SecretTemplate.Store

namespace SecretTemplate.Engine

inductive Cell
  | vacant
  | asking
  | known (shape : Shape)
  deriving DecidableEq, Repr, Inhabited

inductive Lookup.Stage
  | waiting
  | asking (answer : Except StoreError (Option String))
  | settled (result : Except Failure Shape)
  deriving Inhabited

structure Lookup where
  path : String
  stage : Lookup.Stage := .waiting
  deriving Inhabited

def Lookup.query (l : Lookup) : String := clean l.path

def Lookup.mount (l : Lookup) : String := Engine.mount l.query

/-- The shape that the answer for a path stands for. A mount without metadata is flat. -/
def classify (path : String) : Except StoreError (Option String) → Except Failure Shape
  | .ok version => Shape.ofVersion path version
  | .error .notFound => .ok .flat
  | .error cause => .error (.unreachable path cause)

def classifyNotices (path mount : String) (answer : Except StoreError (Option String)) : List Event :=
  let missing := match answer with
    | .error .notFound => [⟨.debug, .engine, "No mount metadata for '" ++ path ++ "', assuming KV v1"⟩]
    | _ => []
  match classify path answer with
  | .ok shape => missing ++ [⟨.debug, .engine, "Mount '" ++ mount ++ "' uses " ++ shape.name ++ " KV shape"⟩]
  | .error _ => missing

/-- Lookups side by side, with the cells that they share. -/
structure Lookups (σ : Type) where
  cells : Keyed Cell := ∅
  lookups : List Lookup
  session : Session σ

namespace Lookups

variable {σ : Type}

def cell (m : Lookups σ) (mount : String) : Cell := (m.cells.get? mount).getD .vacant

def setStage (m : Lookups σ) (i : Nat) (stage : Lookup.Stage) : Lookups σ :=
  { m with lookups := m.lookups.modify i fun l => { l with stage } }

def setCell (m : Lookups σ) (mount : String) (cell : Cell) : Lookups σ :=
  { m with cells := m.cells.insert mount cell }

def advance (store : Store σ) (m : Lookups σ) (i : Nat) : Option (Lookups σ) :=
  match m.lookups[i]? with
  | none => none
  | some l =>
    match l.stage with
    | .settled _ => none
    | .waiting =>
      match m.cell l.mount with
      | .known shape => some (m.setStage i (.settled (.ok shape)))
      | .asking => none
      | .vacant =>
        let (answer, session) := m.session.mountVersion store l.query
        some { (m.setStage i (.asking answer)).setCell l.mount .asking with session }
    | .asking answer =>
      let session := m.session.log (classifyNotices l.query l.mount answer)
      let result := classify l.query answer
      let cell := match result with
        | .ok shape => Cell.known shape
        | .error _ => .vacant
      some { (m.setStage i (.settled result)).setCell l.mount cell with session }

def step (store : Store σ) (m : Lookups σ) (i : Nat) : Lookups σ :=
  (m.advance store i).getD m

def run (store : Store σ) (m : Lookups σ) (schedule : List Nat) : Lookups σ :=
  schedule.foldl (step store) m

def result? (m : Lookups σ) (i : Nat) : Option (Except Failure Shape) :=
  match m.lookups[i]? with
  | some ⟨_, .settled result⟩ => some result
  | _ => none

def start (m : Lookups σ) (paths : List String) : Lookups σ :=
  { m with lookups := paths.map fun path => { path } }

/-- Each lookup in turn. A lookup takes three steps at most, and one that waits is let past by those
    before it, so as many rounds as there are steps settle all of them. -/
def complete (store : Store σ) (m : Lookups σ) : Lookups σ :=
  let all := List.range m.lookups.length
  m.run store (List.replicate (3 * m.lookups.length) all).flatten

end Lookups

end SecretTemplate.Engine
