import SecretTemplate.Proofs.Resolution.Outcomes

namespace SecretTemplate

open Engine (Shape Lookups cellOf)

namespace Resolution

def kept (text : Except Failure String) : Outcome :=
  text.map fun value => if value.isEmpty then none else some value

inductive Yields (answers : Answers) (references : List Reference) (r : Reference) : Except Failure String → Prop
  | refused {cause : Failure} (refuses : answers.Refuses r.storePath cause) : Yields answers references r (.error cause)
  | read {shape : Shape} {answer : Except StoreError (Option Json)}
      (names : answers.Names (references.map (·.storePath)) (cellOf r.storePath) shape)
      (document : answers.document (shape.readPath r.storePath) answer) :
      Yields answers references r (fieldText shape r answer)

/-- How the fetch of a reference can end beside those of `references`. -/
def CanEnd (answers : Answers) (references : List Reference) (r : Reference) (outcome : Outcome) : Prop :=
  ∃ text, Yields answers references r text ∧ outcome = kept text

namespace Progress

variable {σ : Type} {answers : Answers} {references : List Reference} {store : Store σ} {p p' : Progress σ} {i : Nat}

structure Told (answers : Answers) (references : List Reference) (p : Progress σ) : Prop where
  same : p.fetches.map (·.reference) = references
  lookups : p.lookups.Told answers (references.map (·.storePath))
  reading : ∀ {i : Nat} {f : Fetch} {shape answer}, p.fetches[i]? = some f → f.stage = .reading shape answer →
    answers.Names (references.map (·.storePath)) (cellOf f.reference.storePath) shape ∧
      answers.document (shape.readPath f.reference.storePath) answer
  finished : ∀ {i : Nat} {f : Fetch} {outcome}, p.fetches[i]? = some f → f.stage = .finished outcome →
    CanEnd answers references f.reference outcome

theorem Told.ofBatch (answers : Answers) (batch : Batch) (limit : Nat) (s : Session σ) :
    (ofBatch batch limit s).Told answers batch.values where
  same := by simp [Progress.ofBatch, Keyed.values, Function.comp_def]
  lookups := by
    have paths : (Progress.ofBatch batch limit s).lookups =
        Lookups.ofPaths (batch.values.map (·.storePath)) s := by
      simp [Progress.ofBatch, Lookups.ofPaths, Keyed.values]
    rw [paths]
    exact Lookups.Told.ofPaths answers _ s
  reading := by
    intro i f shape answer here reading
    obtain ⟨e, _, rfl⟩ := List.mem_map.mp (List.mem_of_getElem? here)
    cases reading
  finished := by
    intro i f outcome here finished
    obtain ⟨e, _, rfl⟩ := List.mem_map.mp (List.mem_of_getElem? here)
    cases finished

theorem Told.lookup_at {f : Fetch} {result : Except Failure Shape} (told : p.Told answers references)
    (here : p.fetches[i]? = some f) (known : p.lookups.result? i = some result) :
    ∃ l, p.lookups.lookups[i]? = some l ∧ l.path = f.reference.storePath ∧ l.stage = .settled result := by
  obtain ⟨l, there, settled⟩ := Lookups.result?_eq_some_iff.mp known
  have paths : (p.lookups.lookups.map (·.path))[i]? = (references.map (·.storePath))[i]? := by
    rw [told.lookups.samePaths]
  refine ⟨l, there, ?_, settled⟩
  rw [← told.same] at paths
  simpa [here, there] using paths

theorem Told.move {f : Fetch} (told : p.Told answers references) (stage : Stage)
    (here : p.fetches[i]? = some f) (fetches : p'.fetches = (p.setStage i stage).fetches)
    {session : Session σ} (lookups : p'.lookups = { p.lookups with session })
    (reading : ∀ shape answer, stage = .reading shape answer →
      answers.Names (references.map (·.storePath)) (cellOf f.reference.storePath) shape ∧
        answers.document (shape.readPath f.reference.storePath) answer)
    (finished : ∀ outcome, stage = .finished outcome → CanEnd answers references f.reference outcome) :
    p'.Told answers references where
  same := by
    obtain ⟨before, after, whole, -, changed⟩ := modify_split here fun f => { f with stage }
    have now : p'.fetches = before ++ { f with stage } :: after := fetches.trans changed
    rw [← told.same, now, whole]
    simp
  lookups := by
    rw [lookups]
    exact told.lookups.withSession session
  reading := by
    intro j g shape answer there read
    rw [fetches] at there
    rcases moved_or_same here there with ⟨-, rfl⟩ | there
    · exact reading shape answer read
    · exact told.reading there read
  finished := by
    intro j g outcome there ended
    rw [fetches] at there
    rcases moved_or_same here there with ⟨-, rfl⟩ | there
    · exact finished outcome ended
    · exact told.finished there ended

theorem Told.step (told : p.Told answers references) (gives : store.Gives answers p.session.state)
    (step : Step store p i p') : p'.Told answers references := by
  cases step with
  | start here queued free =>
    refine told.move .classifying here rfl rfl ?_ ?_
    · intro shape answer wrong
      cases wrong
    · intro outcome wrong
      cases wrong
  | lookup here classifying unsettled moved =>
    exact ⟨told.same, told.lookups.step gives moved, told.reading, told.finished⟩
  | @refuse f cause here classifying result =>
    refine told.move (.finished (.error cause)) here rfl rfl ?_ ?_
    · intro shape answer wrong
      cases wrong
    · intro outcome ended
      cases ended
      obtain ⟨l, there, path, settled⟩ := told.lookup_at here result
      have refuses := told.lookups.refused there settled
      rw [path] at refuses
      exact ⟨.error cause, .refused refuses, rfl⟩
  | @read f shape here classifying result =>
    refine told.move (.reading shape _) here rfl rfl ?_ ?_
    · intro shape' answer read
      cases read
      obtain ⟨l, there, path, settled⟩ := told.lookup_at here result
      have names := told.lookups.found there settled
      rw [Engine.Lookup.mount_eq_cellOf, path] at names
      exact ⟨names, gives.read _⟩
    · intro outcome wrong
      cases wrong
  | @finish f shape answer here reading =>
    refine told.move (.finished (outcome shape f.reference answer)) here rfl rfl ?_ ?_
    · intro shape' answer' wrong
      cases wrong
    · intro outcome' ended
      cases ended
      obtain ⟨names, document⟩ := told.reading here reading
      exact ⟨_, .read names document, rfl⟩

def answersOn (store : Store σ) (p : Progress σ) (schedule : List Nat) : Answers :=
  .along store (fun steps => (p.run store steps).session.state) schedule

theorem Told.run {schedule : List Nat} (told : p.Told (p.answersOn store schedule) references) :
    (p.run store schedule).Told (p.answersOn store schedule) references :=
  run_induction (step_eq_or_step store) schedule told fun passed told step =>
    told.step (Answers.gives_along passed) step

end Progress

end Resolution

end SecretTemplate
