import SecretTemplate.Proofs.Engine.Queries
import SecretTemplate.Proofs.Resolution.Answers

namespace SecretTemplate.Resolution

open Engine (Shape Lookup Lookups clean classify cellOf)

/-- What a fetch is seen to do in one step. -/
inductive Deed
  | began
  | looked (deed : Engine.Deed)
  | refused (cause : Failure)
  | read (shape : Shape) (answer : Except StoreError (Option Json))
  | finished (outcome : Outcome)

def Deed.isRead : Deed → Bool
  | .read _ _ => true
  | _ => false

def Deed.isRefused : Deed → Bool
  | .refused _ => true
  | _ => false

structure Happening where
  fetch : Nat
  placeholder : String
  reference : Reference
  deed : Deed

namespace Happening

def lookup? (e : Happening) : Option Engine.Happening :=
  match e.deed with
  | .looked deed => some ⟨e.fetch, e.reference.storePath, deed⟩
  | _ => none

def call? (e : Happening) : Option Call :=
  match e.deed with
  | .looked (.asked _) => some (.mountVersion (clean e.reference.storePath))
  | .read shape _ => some (.read (shape.readPath e.reference.storePath))
  | _ => none

def outcome? (e : Happening) : Option (String × Outcome) :=
  match e.deed with
  | .refused cause => some (e.placeholder, .error cause)
  | .finished outcome => some (e.placeholder, outcome)
  | _ => none

end Happening

def Stage.deed? : Stage → Stage → Option Deed
  | .queued, .classifying => some .began
  | .classifying, .finished (.error cause) => some (.refused cause)
  | .classifying, .reading shape answer => some (.read shape answer)
  | .reading _ _, .finished outcome => some (.finished outcome)
  | _, _ => none

def Fetch.does (f : Fetch) (i : Nat) (deed : Deed) : Happening := ⟨i, f.placeholder, f.reference, deed⟩

/-- The replies of a store to what is asked of it, from one of its states to another. -/
inductive Replies {σ : Type} (store : Store σ) (start : σ) : List Happening → σ → Prop
  | nil : Replies store start [] start
  | asked {told : List Happening} {state : σ} (before : Replies store start told state) (i : Nat) (placeholder : String)
      (r : Reference) :
      Replies store start
        (told ++ [⟨i, placeholder, r, .looked (.asked (store.mountVersion (clean r.storePath) state).answer)⟩])
        (store.mountVersion (clean r.storePath) state).next
  | read {told : List Happening} {state : σ} (before : Replies store start told state) (i : Nat) (placeholder : String)
      (r : Reference) (shape : Shape) :
      Replies store start
        (told ++ [⟨i, placeholder, r, .read shape (store.read (shape.readPath r.storePath) state).answer⟩])
        (store.read (shape.readPath r.storePath) state).next
  | silent {told : List Happening} {state : σ} (before : Replies store start told state) {e : Happening}
      (uncalled : e.call? = none) : Replies store start (told ++ [e]) state

namespace Progress

variable {σ : Type} {store : Store σ} {batch : Batch} {p p' : Progress σ} {i : Nat} {told : List Happening}
  {e : Happening}

def happening? (p p' : Progress σ) (i : Nat) : Option Happening :=
  match p.fetches[i]?, p'.fetches[i]? with
  | some f, some f' =>
    ((f.stage.deed? f'.stage).or ((p.lookups.happening? p'.lookups i).map fun e => .looked e.deed)).map (f.does i)
  | _, _ => none

def history (store : Store σ) (p : Progress σ) (schedule : List Nat) : List Happening :=
  historyOf (step store) happening? p schedule

theorem happening?_self (p : Progress σ) (i : Nat) : p.happening? p i = none := by
  unfold happening?
  cases p.fetches[i]? with
  | none => rfl
  | some f =>
    have same : f.stage.deed? f.stage = none := by cases f.stage <;> rfl
    simp [same, Lookups.happening?_self]

theorem happening?_of_stage {f : Fetch} {stage : Stage} {deed : Deed} (here : p.fetches[i]? = some f)
    (fetches : p'.fetches = (p.setStage i stage).fetches) (seen : f.stage.deed? stage = some deed) :
    p.happening? p' i = some (f.does i deed) := by
  unfold happening?
  rw [fetches, here, getElem?_setStage_self here]
  simp [seen]

inductive Seen (store : Store σ) (p : Progress σ) (i : Nat) : Progress σ → Happening → Prop
  | start {f : Fetch} (here : p.fetches[i]? = some f) (queued : f.stage = .queued) (free : p.mayStart i = true) :
      Seen store p i (p.setStage i .classifying) (f.does i .began)
  | lookup {f : Fetch} {lookups : Lookups σ} {e : Engine.Happening} (here : p.fetches[i]? = some f)
      (classifying : f.stage = .classifying) (unsettled : p.lookups.result? i = none)
      (seen : Lookups.Seen store p.lookups i lookups e) :
      Seen store p i { p with lookups } (f.does i (.looked e.deed))
  | refuse {f : Fetch} {cause : Failure} (here : p.fetches[i]? = some f) (classifying : f.stage = .classifying)
      (result : p.lookups.result? i = some (.error cause)) :
      Seen store p i (p.finish i f.placeholder (.error cause)) (f.does i (.refused cause))
  | read {f : Fetch} {shape : Shape} (here : p.fetches[i]? = some f) (classifying : f.stage = .classifying)
      (result : p.lookups.result? i = some (.ok shape)) :
      Seen store p i (p.readAt store i f shape)
        (f.does i (.read shape (store.read (shape.readPath f.reference.storePath) p.session.state).answer))
  | finish {f : Fetch} {shape : Shape} {answer : Except StoreError (Option Json)} (here : p.fetches[i]? = some f)
      (reading : f.stage = .reading shape answer) :
      Seen store p i (p.ended i f shape answer) (f.does i (.finished (outcome shape f.reference answer)))

theorem Step.seen (step : Step store p i p') : ∃ e, p.happening? p' i = some e ∧ Seen store p i p' e := by
  cases step with
  | start here queued free =>
    exact ⟨_, happening?_of_stage here rfl (by rw [queued]; rfl), .start here queued free⟩
  | @lookup f lookups here classifying unsettled moved =>
    obtain ⟨e, happened, seen⟩ := moved.seen
    refine ⟨f.does i (.looked e.deed), ?_, .lookup here classifying unsettled seen⟩
    simp [happening?, here, classifying, Stage.deed?, happened]
  | refuse here classifying result =>
    exact ⟨_, happening?_of_stage here rfl (by rw [classifying]; rfl), .refuse here classifying result⟩
  | read here classifying result =>
    exact ⟨_, happening?_of_stage here rfl (by rw [classifying]; rfl), .read here classifying result⟩
  | finish here reading =>
    exact ⟨_, happening?_of_stage here rfl (by rw [reading]; rfl), .finish here reading⟩

theorem Seen.fetch (seen : Seen store p i p' e) :
    ∃ f, p.fetches[i]? = some f ∧ e = f.does i e.deed := by
  cases seen with
  | start here => exact ⟨_, here, rfl⟩
  | lookup here => exact ⟨_, here, rfl⟩
  | refuse here => exact ⟨_, here, rfl⟩
  | read here => exact ⟨_, here, rfl⟩
  | finish here => exact ⟨_, here, rfl⟩

theorem Seen.step (seen : Seen store p i p' e) : Step store p i p' := by
  cases seen with
  | start here queued free => exact .start here queued free
  | lookup here classifying unsettled seen => exact .lookup here classifying unsettled seen.step
  | refuse here classifying result => exact .refuse here classifying result
  | read here classifying result => exact .read here classifying result
  | finish here reading => exact .finish here reading

theorem step_eq_or_seen (store : Store σ) (p : Progress σ) (i : Nat) :
    p.step store i = p ∨ ∃ e, p.happening? (p.step store i) i = some e ∧ Seen store p i (p.step store i) e :=
  (step_eq_or_step store p i).imp_right Step.seen

def Paired (p : Progress σ) : Prop :=
  p.lookups.lookups.map (·.path) = p.fetches.map (·.reference.storePath)

theorem Paired.path {f : Fetch} {l : Lookup} (paired : p.Paired) (here : p.fetches[i]? = some f)
    (there : p.lookups.lookups[i]? = some l) : l.path = f.reference.storePath := by
  have same := congrArg (·[i]?) paired
  simpa [here, there] using same

theorem paths_setStage (p : Progress σ) (i : Nat) (stage : Stage) :
    (p.setStage i stage).fetches.map (·.reference.storePath) = p.fetches.map (·.reference.storePath) := by
  apply List.ext_getElem?
  intro j
  simp only [List.getElem?_map, setStage, List.getElem?_modify]
  split <;> simp [Function.comp_def]

theorem Paired.step (paired : p.Paired) (step : Step store p i p') : p'.Paired := by
  cases step with
  | start => exact paired.trans (paths_setStage ..).symm
  | lookup here classifying unsettled moved =>
    obtain ⟨stage, same⟩ := moved.lookups
    exact (congrArg _ same).trans ((Lookups.paths_setStage ..).trans paired)
  | refuse => exact paired.trans (paths_setStage ..).symm
  | read => exact paired.trans (paths_setStage ..).symm
  | finish => exact paired.trans (paths_setStage ..).symm

theorem call?_looked {f : Fetch} {e : Engine.Happening} (path : e.path = f.reference.storePath) (i : Nat) :
    (f.does i (.looked e.deed)).call? = e.call? := by
  unfold Happening.call? Engine.Happening.call? Engine.Happening.isQuery Fetch.does
  rw [path]
  cases e.deed <;> rfl

theorem Seen.calls (seen : Seen store p i p' e) (paired : p.Paired) :
    p'.session.calls = p.session.calls ++ e.call?.toList := by
  cases seen with
  | start => exact (List.append_nil _).symm
  | lookup here classifying unsettled seen =>
    obtain ⟨l, there, -, path⟩ := seen.lookup
    rw [call?_looked (path.trans (paired.path here there))]
    exact seen.calls
  | refuse => exact (List.append_nil _).symm
  | read => exact (Session.calls_ask ..).trans (congrArg (· ++ _) (Session.calls_log ..))
  | finish => exact (Session.calls_log ..).trans (List.append_nil _).symm

theorem Seen.outcomes (seen : Seen store p i p' e) : p'.outcomes = p.outcomes ++ e.outcome?.toList := by
  cases seen with
  | start => exact (List.append_nil _).symm
  | lookup => exact (List.append_nil _).symm
  | refuse => rfl
  | read => exact (List.append_nil _).symm
  | finish => rfl

theorem Seen.replies {start : σ} (seen : Seen store p i p' e) (paired : p.Paired)
    (before : Replies store start told p.session.state) : Replies store start (told ++ [e]) p'.session.state := by
  cases seen with
  | start => exact .silent before rfl
  | @lookup f lookups e here classifying unsettled seen =>
    cases seen with
    | reuse => exact .silent before rfl
    | @ask l there =>
      have path := paired.path here there
      have asked := Replies.asked before i f.placeholder f.reference
      rw [← path] at asked
      exact asked
    | @settle l answer =>
      refine .silent before ?_
      cases classify l.query answer <;> rfl
  | refuse => exact .silent before rfl
  | read => exact .read before ..
  | finish => exact .silent before rfl

def looking (looks : List Engine.Happening) : List Deed := .began :: looks.map fun e => .looked e.deed

theorem looking_append (looks : List Engine.Happening) (e : Engine.Happening) :
    looking (looks ++ [e]) = looking looks ++ [.looked e.deed] := by
  rw [looking, List.map_append]
  rfl

inductive Did (i : Nat) (r : Reference) : Lookup.Stage → Stage → List Deed → Prop
  | nothing : Did i r .waiting .queued []
  | looked {stage : Lookup.Stage} {looks : List Engine.Happening} (own : Lookups.Did i r.storePath stage looks) :
      Did i r stage .classifying (looking looks)
  | refused {cause : Failure} {looks : List Engine.Happening}
      (own : Lookups.Did i r.storePath (.settled (.error cause)) looks) :
      Did i r (.settled (.error cause)) (.finished (.error cause)) (looking looks ++ [.refused cause])
  | read {shape : Shape} {looks : List Engine.Happening} (own : Lookups.Did i r.storePath (.settled (.ok shape)) looks)
      (answer : Except StoreError (Option Json)) :
      Did i r (.settled (.ok shape)) (.reading shape answer) (looking looks ++ [.read shape answer])
  | finished {shape : Shape} {looks : List Engine.Happening}
      (own : Lookups.Did i r.storePath (.settled (.ok shape)) looks) (answer : Except StoreError (Option Json)) :
      Did i r (.settled (.ok shape)) (.finished (outcome shape r answer))
        (looking looks ++ [.read shape answer, .finished (outcome shape r answer)])

theorem stage_of_result {l : Lookup} {result : Except Failure Shape} (known : p.lookups.result? i = some result)
    (there : p.lookups.lookups[i]? = some l) : l.stage = .settled result := by
  obtain ⟨l', there', settled⟩ := Lookups.result?_eq_some_iff.mp known
  cases there.symm.trans there'
  exact settled

theorem Did.step {f f' : Fetch} {l l' : Lookup} {own : List Deed} (did : Did i f.reference l.stage f.stage own)
    (seen : Seen store p i p' e) (paired : p.Paired) (here : p.fetches[i]? = some f)
    (there : p.lookups.lookups[i]? = some l) (now : p'.fetches[i]? = some f')
    (at_now : p'.lookups.lookups[i]? = some l') :
    Did i f'.reference l'.stage f'.stage (own ++ [e.deed]) := by
  cases seen with
  | start here' queued =>
    cases here.symm.trans here'
    cases (getElem?_setStage_self here).symm.trans now
    cases there.symm.trans at_now
    rw [queued] at did
    generalize l.stage = stage at did ⊢
    cases did with
    | nothing => exact .looked .nothing
  | @lookup f lookups e here' classifying unsettled seen =>
    cases here.symm.trans here'
    cases here.symm.trans now
    rw [classifying] at did ⊢
    have path := paired.path here there
    generalize at_l : l.stage = stage at did
    cases did with
    | @looked _ looks own =>
      rw [← path, ← at_l] at own
      have further := own.step seen there at_now
      rw [seen.step.path there at_now, path] at further
      have whole := Did.looked further
      rw [looking_append] at whole
      exact whole
  | refuse here' classifying result =>
    cases here.symm.trans here'
    cases (getElem?_setStage_self here).symm.trans now
    cases there.symm.trans at_now
    rw [stage_of_result result there, classifying] at did
    rw [stage_of_result result there]
    cases did with
    | looked own => exact .refused own
  | read here' classifying result =>
    cases here.symm.trans here'
    cases (getElem?_setStage_self here).symm.trans now
    cases there.symm.trans at_now
    rw [stage_of_result result there, classifying] at did
    rw [stage_of_result result there]
    cases did with
    | looked own => exact .read own _
  | finish here' reading =>
    cases here.symm.trans here'
    cases (getElem?_setStage_self here).symm.trans now
    cases there.symm.trans at_now
    rw [reading] at did
    generalize l.stage = stage at did ⊢
    cases did with
    | read own =>
      rw [List.append_assoc]
      exact .finished own _

end Progress

end SecretTemplate.Resolution
