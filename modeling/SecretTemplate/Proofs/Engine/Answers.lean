import SecretTemplate.Proofs.Engine.LookupSteps

namespace SecretTemplate

variable {σ : Type}

/-- The answers that may be given to a path. -/
structure Answers where
  version : String → Except StoreError (Option String) → Prop
  document : String → Except StoreError (Option Json) → Prop

/-- What the store answers in a state is among the answers. -/
structure Store.Gives (store : Store σ) (answers : Answers) (state : σ) : Prop where
  mountVersion : ∀ path, answers.version path (store.mountVersion path state).answer
  read : ∀ path, answers.document path (store.read path state).answer

namespace Engine

def cellOf (path : String) : String := mount (clean path)

theorem Lookup.mount_eq_cellOf (l : Lookup) : l.mount = cellOf l.path := rfl

end Engine

open Engine

namespace Answers

/-- The answers that a store gives in the states that are reached by the beginnings of a schedule. -/
def along (store : Store σ) (state : List Nat → σ) (schedule : List Nat) : Answers where
  version path answer := ∃ steps, steps <+: schedule ∧ (store.mountVersion path (state steps)).answer = answer
  document path answer := ∃ steps, steps <+: schedule ∧ (store.read path (state steps)).answer = answer

theorem gives_along {store : Store σ} {state : List Nat → σ} {steps schedule : List Nat} (passed : steps <+: schedule) :
    store.Gives (along store state schedule) (state steps) where
  mountVersion _ := ⟨steps, passed, rfl⟩
  read _ := ⟨steps, passed, rfl⟩

/-- One of `paths` lies under the mount, and an answer for it names the shape. -/
def Names (answers : Answers) (paths : List String) (mount : String) (shape : Shape) : Prop :=
  ∃ path ∈ paths, cellOf path = mount ∧
    ∃ answer, answers.version (clean path) answer ∧ classify (clean path) answer = .ok shape

/-- An answer for the path itself is a failure. -/
def Refuses (answers : Answers) (path : String) (cause : Failure) : Prop :=
  ∃ answer, answers.version (clean path) answer ∧ classify (clean path) answer = .error cause

end Answers

namespace Engine.Lookups

variable {answers : Answers} {paths : List String} {m m' : Lookups σ} {store : Store σ} {i : Nat}

structure Told (answers : Answers) (paths : List String) (m : Lookups σ) : Prop where
  samePaths : m.lookups.map (·.path) = paths
  asked : ∀ {i : Nat} {l : Lookup} {answer}, m.lookups[i]? = some l → l.stage = .asking answer →
    answers.version l.query answer
  known : ∀ {mount : String} {shape : Shape}, m.cell mount = .known shape → answers.Names paths mount shape
  found : ∀ {i : Nat} {l : Lookup} {shape : Shape}, m.lookups[i]? = some l → l.stage = .settled (.ok shape) →
    answers.Names paths l.mount shape
  refused : ∀ {i : Nat} {l : Lookup} {cause : Failure}, m.lookups[i]? = some l →
    l.stage = .settled (.error cause) → answers.Refuses l.path cause

theorem Told.path_mem {l : Lookup} (told : m.Told answers paths) (here : m.lookups[i]? = some l) :
    l.path ∈ paths := by
  rw [← told.samePaths]
  exact List.mem_map.mpr ⟨l, List.mem_of_getElem? here, rfl⟩

theorem Told.withSession (told : m.Told answers paths) (session : Session σ) :
    ({ m with session } : Lookups σ).Told answers paths :=
  ⟨told.samePaths, told.asked, told.known, told.found, told.refused⟩

def ofPaths (paths : List String) (session : Session σ) : Lookups σ :=
  { lookups := paths.map fun path => { path }, session }

theorem waiting_ofPaths {session : Session σ} {l : Lookup} (here : (ofPaths paths session).lookups[i]? = some l) :
    l.stage = .waiting := by
  obtain ⟨path, _, rfl⟩ := List.mem_map.mp (List.mem_of_getElem? here)
  rfl

theorem Told.ofPaths (answers : Answers) (paths : List String) (session : Session σ) :
    (ofPaths paths session).Told answers paths where
  samePaths := by simp [Lookups.ofPaths, Function.comp_def]
  asked := by
    intro i l answer here asking
    cases (waiting_ofPaths here).symm.trans asking
  known := by
    intro mount shape known
    cases known
  found := by
    intro i l shape here settled
    cases (waiting_ofPaths here).symm.trans settled
  refused := by
    intro i l cause here settled
    cases (waiting_ofPaths here).symm.trans settled

theorem Told.move {l : Lookup} (told : m.Told answers paths) (stage : Lookup.Stage)
    (here : m.lookups[i]? = some l) (lookups : m'.lookups = (m.setStage i stage).lookups)
    (asked : ∀ answer, stage = .asking answer → answers.version l.query answer)
    (known : ∀ mount shape, m'.cell mount = .known shape → answers.Names paths mount shape)
    (found : ∀ shape, stage = .settled (.ok shape) → answers.Names paths l.mount shape)
    (refused : ∀ cause, stage = .settled (.error cause) → answers.Refuses l.path cause) :
    m'.Told answers paths where
  samePaths := by
    rw [lookups, paths_setStage]
    exact told.samePaths
  asked := by
    intro j l' answer there asking
    rw [lookups] at there
    rcases moved_or_same here there with ⟨-, rfl⟩ | there
    · exact asked answer asking
    · exact told.asked there asking
  known := fun held => known _ _ held
  found := by
    intro j l' shape there settled
    rw [lookups] at there
    rcases moved_or_same here there with ⟨-, rfl⟩ | there
    · exact found shape settled
    · exact told.found there settled
  refused := by
    intro j l' cause there settled
    rw [lookups] at there
    rcases moved_or_same here there with ⟨-, rfl⟩ | there
    · exact refused cause settled
    · exact told.refused there settled

theorem Told.names {l : Lookup} {answer : Except StoreError (Option String)} {shape : Shape}
    (told : m.Told answers paths) (here : m.lookups[i]? = some l) (asking : l.stage = .asking answer)
    (known : classify l.query answer = .ok shape) : answers.Names paths l.mount shape :=
  ⟨l.path, told.path_mem here, rfl, answer, told.asked here asking, known⟩

theorem Told.step (told : m.Told answers paths) (gives : store.Gives answers m.session.state)
    (step : Step store m i m') : m'.Told answers paths := by
  cases step with
  | @reuse l shape here waiting known =>
    refine told.move (.settled (.ok shape)) here rfl ?_ (fun _ _ => told.known) ?_ ?_
    · intro answer wrong
      cases wrong
    · intro other settled
      cases settled
      exact told.known known
    · intro cause wrong
      cases wrong
  | @ask l here waiting vacant =>
    refine told.move (.asking _) here rfl ?_ ?_ ?_ ?_
    · intro answer asking
      cases asking
      exact gives.mountVersion l.query
    · intro mount shape known
      rw [cell_asked] at known
      split at known
      · cases known
      · exact told.known known
    · intro shape wrong
      cases wrong
    · intro cause wrong
      cases wrong
  | @settle l answer here asking =>
    refine told.move (.settled (classify l.query answer)) here rfl ?_ ?_ ?_ ?_
    · intro answer wrong
      cases wrong
    · intro mount shape known
      rw [cell_answered] at known
      split at known
      · rename_i same
        rw [same]
        exact told.names here asking (Cell.ofResult_eq_known known)
      · exact told.known known
    · intro shape settled
      exact told.names here asking (Lookup.Stage.settled.inj settled)
    · intro cause settled
      exact ⟨answer, told.asked here asking, Lookup.Stage.settled.inj settled⟩

end Engine.Lookups

end SecretTemplate
