import SecretTemplate.Proofs.Engine.Answers
import SecretTemplate.Proofs.Runs

namespace SecretTemplate

namespace Engine

/-- What a lookup is seen to do in one step. -/
inductive Deed
  | asked (answer : Except StoreError (Option String))
  | failed (cause : Failure)
  | found (shape : Shape)
  | reused (shape : Shape)

def Deed.ofResult : Except Failure Shape → Deed
  | .error cause => .failed cause
  | .ok shape => .found shape

theorem Deed.ofResult_injective {a b : Except Failure Shape} (same : Deed.ofResult a = Deed.ofResult b) : a = b := by
  cases a <;> cases b <;> cases same <;> rfl

theorem Deed.ofResult_ne_asked (result : Except Failure Shape) (answer : Except StoreError (Option String)) :
    Deed.ofResult result ≠ .asked answer := by
  cases result <;> exact Deed.noConfusion

theorem Deed.ofResult_ne_reused (result : Except Failure Shape) (shape : Shape) :
    Deed.ofResult result ≠ .reused shape := by
  cases result <;> exact Deed.noConfusion

structure Happening where
  lookup : Nat
  path : String
  deed : Deed

namespace Happening

def mount (e : Happening) : String := cellOf e.path

def isQuery (e : Happening) : Bool :=
  match e.deed with
  | .asked _ => true
  | _ => false

def isSuccess (e : Happening) : Bool :=
  match e.deed with
  | .found _ => true
  | _ => false

def call? (e : Happening) : Option Call := if e.isQuery then some (.mountVersion (clean e.path)) else none

end Happening

def Lookup.Stage.deed? : Lookup.Stage → Lookup.Stage → Option Deed
  | .waiting, .asking answer => some (.asked answer)
  | .waiting, .settled (.ok shape) => some (.reused shape)
  | .asking _, .settled result => some (.ofResult result)
  | _, _ => none

theorem Lookup.Stage.deed?_self (stage : Lookup.Stage) : stage.deed? stage = none := by
  cases stage <;> rfl

namespace Lookups

variable {σ : Type} {store : Store σ} {m m' : Lookups σ} {i : Nat}

def happening? (m m' : Lookups σ) (i : Nat) : Option Happening :=
  match m.lookups[i]?, m'.lookups[i]? with
  | some l, some l' => (l.stage.deed? l'.stage).map fun deed => ⟨i, l.path, deed⟩
  | _, _ => none

def history (store : Store σ) (m : Lookups σ) (schedule : List Nat) : List Happening :=
  historyOf (step store) happening? m schedule

theorem step_eq_or_step (store : Store σ) (m : Lookups σ) (i : Nat) :
    m.step store i = m ∨ Step store m i (m.step store i) := by
  unfold step
  cases h : m.advance store i with
  | none => exact .inl rfl
  | some m' => exact .inr (step_of_advance h)

theorem happening?_self (m : Lookups σ) (i : Nat) : m.happening? m i = none := by
  unfold happening?
  cases m.lookups[i]? with
  | none => rfl
  | some l => simp [Lookup.Stage.deed?_self]

theorem happening?_of_stage {l : Lookup} {stage : Lookup.Stage} {deed : Deed} (here : m.lookups[i]? = some l)
    (lookups : m'.lookups = (m.setStage i stage).lookups) (seen : l.stage.deed? stage = some deed) :
    m.happening? m' i = some ⟨i, l.path, deed⟩ := by
  unfold happening?
  rw [lookups, here, getElem?_setStage_self here]
  simp [seen]

inductive Seen (store : Store σ) (m : Lookups σ) (i : Nat) : Lookups σ → Happening → Prop
  | reuse {l : Lookup} {shape : Shape} (here : m.lookups[i]? = some l) (waiting : l.stage = .waiting)
      (known : m.cell l.mount = .known shape) :
      Seen store m i (m.setStage i (.settled (.ok shape))) ⟨i, l.path, .reused shape⟩
  | ask {l : Lookup} (here : m.lookups[i]? = some l) (waiting : l.stage = .waiting)
      (vacant : m.cell l.mount = .vacant) :
      Seen store m i (m.asked store i l) ⟨i, l.path, .asked (m.session.mountVersion store l.query).1⟩
  | settle {l : Lookup} {answer : Except StoreError (Option String)} (here : m.lookups[i]? = some l)
      (asking : l.stage = .asking answer) :
      Seen store m i (m.answered i l answer) ⟨i, l.path, .ofResult (classify l.query answer)⟩

theorem Step.seen (step : Step store m i m') : ∃ e, m.happening? m' i = some e ∧ Seen store m i m' e := by
  cases step with
  | reuse here waiting known =>
    exact ⟨_, happening?_of_stage here rfl (by rw [waiting]; rfl), .reuse here waiting known⟩
  | ask here waiting vacant =>
    exact ⟨_, happening?_of_stage here rfl (by rw [waiting]; rfl), .ask here waiting vacant⟩
  | settle here asking =>
    exact ⟨_, happening?_of_stage here rfl (by rw [asking]; rfl), .settle here asking⟩

theorem Seen.step {e : Happening} (seen : Seen store m i m' e) : Step store m i m' := by
  cases seen with
  | reuse here waiting known => exact .reuse here waiting known
  | ask here waiting vacant => exact .ask here waiting vacant
  | settle here asking => exact .settle here asking

theorem Seen.lookup {e : Happening} (seen : Seen store m i m' e) :
    ∃ l, m.lookups[i]? = some l ∧ e.lookup = i ∧ e.path = l.path := by
  cases seen with
  | reuse here => exact ⟨_, here, rfl, rfl⟩
  | ask here => exact ⟨_, here, rfl, rfl⟩
  | settle here => exact ⟨_, here, rfl, rfl⟩

theorem Seen.mount {e : Happening} {l : Lookup} (seen : Seen store m i m' e) (here : m.lookups[i]? = some l) :
    e.mount = l.mount := by
  obtain ⟨l', here', -, path⟩ := seen.lookup
  cases here.symm.trans here'
  rw [Happening.mount, path]
  rfl

theorem Seen.cell_ne {e : Happening} {mount : String} (seen : Seen store m i m' e) (other : e.mount ≠ mount) :
    m'.cell mount = m.cell mount := by
  have apart (l : Lookup) (here : m.lookups[i]? = some l) : mount ≠ l.mount := by
    rw [← seen.mount here]
    exact other.symm
  cases seen with
  | reuse => rfl
  | @ask l here =>
    rw [cell_asked]
    exact if_neg (apart l here)
  | @settle l answer here =>
    rw [cell_answered]
    exact if_neg (apart l here)

theorem step_eq_or_seen (store : Store σ) (m : Lookups σ) (i : Nat) :
    m.step store i = m ∨ ∃ e, m.happening? (m.step store i) i = some e ∧ Seen store m i (m.step store i) e :=
  (step_eq_or_step store m i).imp_right Step.seen

def atMount (mount : String) (told : List Happening) : List Happening := told.filter (·.mount = mount)

theorem atMount_append_self (told : List Happening) {e : Happening} {mount : String} (same : e.mount = mount) :
    atMount mount (told ++ [e]) = atMount mount told ++ [e] := by
  simp [atMount, same]

theorem atMount_append_ne (told : List Happening) {e : Happening} {mount : String} (other : e.mount ≠ mount) :
    atMount mount (told ++ [e]) = atMount mount told := by
  simp [atMount, other]

/-- What happens at one mount, by the cell that it leads to. -/
inductive Turns : Cell → List Happening → Prop
  | nil : Turns .vacant []
  | ask {told : List Happening} (before : Turns .vacant told) (i : Nat) (path : String)
      (answer : Except StoreError (Option String)) : Turns .asking (told ++ [⟨i, path, .asked answer⟩])
  | answer {told : List Happening} (before : Turns .vacant told) (i : Nat) (path : String)
      (answer : Except StoreError (Option String)) :
      Turns (.ofResult (classify (clean path) answer))
        (told ++ [⟨i, path, .asked answer⟩, ⟨i, path, .ofResult (classify (clean path) answer)⟩])
  | reuse {told : List Happening} {shape : Shape} (before : Turns (.known shape) told) (i : Nat) (path : String) :
      Turns (.known shape) (told ++ [⟨i, path, .reused shape⟩])

theorem Turns.of_asking {told : List Happening} (turns : Turns .asking told) :
    ∃ before i path answer, told = before ++ [⟨i, path, .asked answer⟩] ∧ Turns .vacant before := by
  generalize same : Cell.asking = cell at turns
  cases turns with
  | nil => cases same
  | ask before i path answer => exact ⟨_, i, path, answer, rfl, before⟩
  | answer before i path answer =>
    cases classified : classify (clean path) answer with
    | error cause =>
      rw [classified] at same
      cases same
    | ok shape =>
      rw [classified] at same
      cases same
  | reuse before => cases same

structure InTurns (m : Lookups σ) (told : List Happening) : Prop where
  turns : ∀ mount, Turns (m.cell mount) (atMount mount told)
  holder : ∀ {i : Nat} {l : Lookup} {answer}, m.lookups[i]? = some l → l.stage = .asking answer →
    m.cell l.mount = .asking ∧ (atMount l.mount told).getLast? = some ⟨i, l.path, .asked answer⟩

theorem InTurns.answered {l : Lookup} {answer : Except StoreError (Option String)} {told : List Happening}
    (inTurns : m.InTurns told) (here : m.lookups[i]? = some l) (asking : l.stage = .asking answer) :
    Turns (.ofResult (classify l.query answer))
      (atMount l.mount told ++ [⟨i, l.path, .ofResult (classify l.query answer)⟩]) := by
  obtain ⟨cell, last⟩ := inTurns.holder here asking
  have turns := inTurns.turns l.mount
  rw [cell] at turns
  obtain ⟨before, j, path, given, whole, vacant⟩ := turns.of_asking
  rw [whole, List.getLast?_concat, Option.some.injEq, Happening.mk.injEq, Deed.asked.injEq] at last
  obtain ⟨rfl, rfl, rfl⟩ := last
  rw [whole, List.append_assoc]
  exact .answer vacant j l.path given

theorem InTurns.move {l : Lookup} {told : List Happening} {e : Happening} (inTurns : m.InTurns told)
    (seen : Seen store m i m' e) (here : m.lookups[i]? = some l)
    (turns : Turns (m'.cell l.mount) (atMount l.mount told ++ [e]))
    (mine : ∀ l' answer, m'.lookups[i]? = some l' → l'.stage = .asking answer →
      l'.mount = l.mount ∧ m'.cell l.mount = .asking ∧ e = ⟨i, l'.path, .asked answer⟩)
    (alone : ∀ j l' answer, i ≠ j → m.lookups[j]? = some l' → l'.stage = .asking answer → l'.mount ≠ l.mount) :
    m'.InTurns (told ++ [e]) := by
  have at_l := seen.mount here
  constructor
  · intro mount
    by_cases same : l.mount = mount
    · rw [atMount_append_self told (at_l.trans same), ← same]
      exact turns
    · have other : e.mount ≠ mount := by rwa [at_l]
      rw [atMount_append_ne told other, seen.cell_ne other]
      exact inTurns.turns mount
  · intro j l' answer there asking
    by_cases same : i = j
    · subst same
      obtain ⟨mount, cell, rfl⟩ := mine l' answer there asking
      rw [mount, atMount_append_self told at_l, List.getLast?_concat]
      exact ⟨cell, rfl⟩
    · rw [seen.step.getElem?_ne same] at there
      have other : e.mount ≠ l'.mount := by
        rw [at_l]
        exact (alone j l' answer same there asking).symm
      rw [atMount_append_ne told other, seen.cell_ne other]
      exact inTurns.holder there asking

theorem InTurns.reuse {l : Lookup} {shape : Shape} {told : List Happening} (store : Store σ)
    (inTurns : m.InTurns told) (here : m.lookups[i]? = some l) (waiting : l.stage = .waiting)
    (known : m.cell l.mount = .known shape) :
    (m.setStage i (.settled (.ok shape))).InTurns (told ++ [⟨i, l.path, .reused shape⟩]) := by
  have seen : Seen store m i _ _ := .reuse here waiting known
  refine inTurns.move seen here ?_ ?_ ?_
  · have turns := inTurns.turns l.mount
    rw [known] at turns
    show Turns (m.cell l.mount) _
    rw [known]
    exact turns.reuse i l.path
  · intro l' answer there asking
    cases (getElem?_setStage_self here).symm.trans there
    cases asking
  · intro j l' answer _ there asking shared
    have held := (inTurns.holder there asking).1
    rw [shared] at held
    cases known.symm.trans held

theorem InTurns.ask {l : Lookup} {told : List Happening} (inTurns : m.InTurns told)
    (here : m.lookups[i]? = some l) (waiting : l.stage = .waiting) (vacant : m.cell l.mount = .vacant) :
    (m.asked store i l).InTurns (told ++ [⟨i, l.path, .asked (m.session.mountVersion store l.query).1⟩]) := by
  have held : (m.asked store i l).cell l.mount = .asking := by
    rw [cell_asked]
    exact if_pos rfl
  refine inTurns.move (.ask here waiting vacant) here ?_ ?_ ?_
  · have turns := inTurns.turns l.mount
    rw [vacant] at turns
    rw [held]
    exact turns.ask i l.path _
  · intro l' answer there asking
    cases (getElem?_setStage_self here).symm.trans there
    cases asking
    exact ⟨rfl, held, rfl⟩
  · intro j l' answer _ there asking shared
    have held := (inTurns.holder there asking).1
    rw [shared] at held
    cases vacant.symm.trans held

theorem InTurns.settle {l : Lookup} {answer : Except StoreError (Option String)} {told : List Happening}
    (store : Store σ) (inTurns : m.InTurns told) (here : m.lookups[i]? = some l) (asks : l.stage = .asking answer) :
    (m.answered i l answer).InTurns (told ++ [⟨i, l.path, .ofResult (classify l.query answer)⟩]) := by
  have seen : Seen store m i _ _ := .settle here asks
  refine inTurns.move seen here ?_ ?_ ?_
  · rw [cell_answered, if_pos rfl]
    exact inTurns.answered here asks
  · intro l' answer' there asking
    cases (getElem?_setStage_self here).symm.trans there
    cases asking
  · intro j l' answer' other there asking shared
    -- Two lookups that ask at one mount would both have made its last query.
    have mine := (inTurns.holder here asks).2
    have theirs := (inTurns.holder there asking).2
    rw [← shared, theirs, Option.some.injEq, Happening.mk.injEq] at mine
    exact other mine.1.symm

theorem InTurns.step {told : List Happening} {e : Happening} (inTurns : m.InTurns told)
    (seen : Seen store m i m' e) : m'.InTurns (told ++ [e]) := by
  cases seen with
  | reuse here waiting known => exact inTurns.reuse store here waiting known
  | ask here waiting vacant => exact inTurns.ask here waiting vacant
  | settle here asking => exact inTurns.settle store here asking

inductive Did (i : Nat) (path : String) : Lookup.Stage → List Happening → Prop
  | nothing : Did i path .waiting []
  | asked (answer : Except StoreError (Option String)) : Did i path (.asking answer) [⟨i, path, .asked answer⟩]
  | ended (answer : Except StoreError (Option String)) :
      Did i path (.settled (classify (clean path) answer))
        [⟨i, path, .asked answer⟩, ⟨i, path, .ofResult (classify (clean path) answer)⟩]
  | reused (shape : Shape) : Did i path (.settled (.ok shape)) [⟨i, path, .reused shape⟩]

theorem Did.step {l l' : Lookup} {own : List Happening} {e : Happening} (did : Did i l.path l.stage own)
    (seen : Seen store m i m' e) (here : m.lookups[i]? = some l) (there : m'.lookups[i]? = some l') :
    Did i l'.path l'.stage (own ++ [e]) := by
  cases seen with
  | @reuse l shape here' waiting known =>
    cases here.symm.trans here'
    cases (getElem?_setStage_self here).symm.trans there
    rw [waiting] at did
    cases did with
    | nothing => exact .reused shape
  | @ask l here' waiting vacant =>
    cases here.symm.trans here'
    cases (getElem?_setStage_self here).symm.trans there
    rw [waiting] at did
    cases did with
    | nothing => exact .asked _
  | @settle l answer here' asking =>
    cases here.symm.trans here'
    cases (getElem?_setStage_self here).symm.trans there
    rw [asking] at did
    cases did with
    | asked => exact .ended answer

def Done (m : Lookups σ) (told : List Happening) : Prop :=
  ∀ i l, m.lookups[i]? = some l → Did i l.path l.stage (told.filter (·.lookup = i))

theorem Done.step {told : List Happening} {e : Happening} (done : m.Done told) (seen : Seen store m i m' e) :
    m'.Done (told ++ [e]) := by
  intro j l' there
  obtain ⟨l, here, lookup, -⟩ := seen.lookup
  rw [List.filter_append]
  by_cases same : i = j
  · subst same
    have own : [e].filter (·.lookup = i) = [e] := by simp [lookup]
    rw [own]
    exact (done i l here).step seen here there
  · rw [seen.step.getElem?_ne same] at there
    have none : [e].filter (·.lookup = j) = [] := by simp [lookup, same]
    rw [none, List.append_nil]
    exact done j l' there

end Lookups

end Engine

end SecretTemplate
