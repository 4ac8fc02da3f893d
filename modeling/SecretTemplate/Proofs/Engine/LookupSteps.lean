import SecretTemplate.Engine.Lookup
import SecretTemplate.Proofs.Keyed.Access
import SecretTemplate.Proofs.Lists

namespace SecretTemplate

namespace Engine

variable {σ : Type}

def Cell.ofResult : Except Failure Shape → Cell
  | .ok shape => .known shape
  | .error _ => .vacant

theorem Cell.ofResult_eq_known {result : Except Failure Shape} {shape : Shape}
    (h : Cell.ofResult result = .known shape) : result = .ok shape := by
  cases result with
  | ok other =>
    cases h
    rfl
  | error cause => cases h

namespace Lookups

def asked (store : Store σ) (m : Lookups σ) (i : Nat) (l : Lookup) : Lookups σ :=
  { (m.setStage i (.asking (m.session.mountVersion store l.query).1)).setCell l.mount .asking with
    session := (m.session.mountVersion store l.query).2 }

def answered (m : Lookups σ) (i : Nat) (l : Lookup) (answer : Except StoreError (Option String)) : Lookups σ :=
  { (m.setStage i (.settled (classify l.query answer))).setCell l.mount (.ofResult (classify l.query answer)) with
    session := m.session.log (classifyNotices l.query l.mount answer) }

inductive Step (store : Store σ) (m : Lookups σ) (i : Nat) : Lookups σ → Prop
  | reuse {l : Lookup} {shape : Shape} (here : m.lookups[i]? = some l) (waiting : l.stage = .waiting)
      (known : m.cell l.mount = .known shape) : Step store m i (m.setStage i (.settled (.ok shape)))
  | ask {l : Lookup} (here : m.lookups[i]? = some l) (waiting : l.stage = .waiting)
      (vacant : m.cell l.mount = .vacant) : Step store m i (m.asked store i l)
  | settle {l : Lookup} {answer : Except StoreError (Option String)} (here : m.lookups[i]? = some l)
      (asking : l.stage = .asking answer) : Step store m i (m.answered i l answer)

theorem step_of_advance {store : Store σ} {m m' : Lookups σ} {i : Nat}
    (h : m.advance store i = some m') : Step store m i m' := by
  unfold advance at h
  cases here : m.lookups[i]? with
  | none => simp [here] at h
  | some l =>
    simp only [here] at h
    cases stage : l.stage with
    | settled result => simp [stage] at h
    | waiting =>
      simp only [stage] at h
      cases cell : m.cell l.mount with
      | asking => simp [cell] at h
      | known shape =>
        simp only [cell, Option.some.injEq] at h
        subst h
        exact .reuse here stage cell
      | vacant =>
        simp only [cell, Option.some.injEq] at h
        subst h
        exact .ask here stage cell
    | asking answer =>
      simp only [stage, Option.some.injEq] at h
      subst h
      exact .settle here stage

/-- A lookup is held up only while another one keeps the cell of its mount. -/
theorem blocked_of_advance_eq_none {store : Store σ} {m : Lookups σ} {i : Nat} {l : Lookup}
    (here : m.lookups[i]? = some l) (h : m.advance store i = none) :
    (∃ result, l.stage = .settled result) ∨ l.stage = .waiting ∧ m.cell l.mount = .asking := by
  simp only [advance, here] at h
  cases stage : l.stage with
  | settled result => exact .inl ⟨result, rfl⟩
  | waiting =>
    simp only [stage] at h
    cases cell : m.cell l.mount with
    | asking => exact .inr ⟨rfl, rfl⟩
    | known shape => simp [cell] at h
    | vacant => simp [cell] at h
  | asking answer => simp [stage] at h

theorem cell_asked (store : Store σ) (m : Lookups σ) (i : Nat) (l : Lookup) (mount : String) :
    (m.asked store i l).cell mount = if mount = l.mount then .asking else m.cell mount := by
  unfold cell asked setCell
  simp only [Keyed.get?_insert]
  split <;> rfl

theorem cell_answered (m : Lookups σ) (i : Nat) (l : Lookup) (answer : Except StoreError (Option String))
    (mount : String) :
    (m.answered i l answer).cell mount =
      if mount = l.mount then .ofResult (classify l.query answer) else m.cell mount := by
  unfold cell answered setCell
  simp only [Keyed.get?_insert]
  split <;> rfl

theorem getElem?_setStage_self {m : Lookups σ} {i : Nat} {l : Lookup} {stage : Lookup.Stage}
    (here : m.lookups[i]? = some l) : (m.setStage i stage).lookups[i]? = some { l with stage } :=
  getElem?_modify_self here _

theorem moved_or_same {m : Lookups σ} {i j : Nat} {l l' : Lookup} {stage : Lookup.Stage}
    (here : m.lookups[i]? = some l) (there : (m.setStage i stage).lookups[j]? = some l') :
    i = j ∧ l' = { l with stage } ∨ m.lookups[j]? = some l' :=
  modified_or_same here there

theorem Step.lookups {store : Store σ} {m m' : Lookups σ} {i : Nat} (step : Step store m i m') :
    ∃ stage, m'.lookups = (m.setStage i stage).lookups := by
  cases step with
  | reuse => exact ⟨_, rfl⟩
  | ask => exact ⟨_, rfl⟩
  | settle => exact ⟨_, rfl⟩

theorem Step.length {store : Store σ} {m m' : Lookups σ} {i : Nat} (step : Step store m i m') :
    m'.lookups.length = m.lookups.length := by
  obtain ⟨stage, same⟩ := step.lookups
  rw [same]
  exact List.length_modify ..

theorem Step.getElem?_ne {store : Store σ} {m m' : Lookups σ} {i j : Nat} (step : Step store m i m')
    (other : i ≠ j) : m'.lookups[j]? = m.lookups[j]? := by
  obtain ⟨stage, same⟩ := step.lookups
  rw [same]
  exact List.getElem?_modify_ne _ _ other

theorem paths_setStage (m : Lookups σ) (i : Nat) (stage : Lookup.Stage) :
    (m.setStage i stage).lookups.map (·.path) = m.lookups.map (·.path) := by
  apply List.ext_getElem?
  intro j
  simp only [List.getElem?_map, setStage, List.getElem?_modify]
  split <;> simp [Function.comp_def]

theorem Step.path {store : Store σ} {m m' : Lookups σ} {i : Nat} {l l' : Lookup} (step : Step store m i m')
    (here : m.lookups[i]? = some l) (there : m'.lookups[i]? = some l') : l'.path = l.path := by
  obtain ⟨stage, same⟩ := step.lookups
  rw [same, getElem?_setStage_self here] at there
  cases there
  rfl

theorem result?_eq_some_iff {m : Lookups σ} {i : Nat} {result : Except Failure Shape} :
    m.result? i = some result ↔ ∃ l, m.lookups[i]? = some l ∧ l.stage = .settled result := by
  unfold result?
  constructor
  · intro h
    split at h
    · rename_i path settled here
      cases h
      exact ⟨_, here, rfl⟩
    · cases h
  · rintro ⟨⟨path, stage⟩, here, rfl⟩
    simp [here]

theorem not_asking_of_result {m : Lookups σ} {i : Nat} {l : Lookup} {result : Except Failure Shape}
    {answer : Except StoreError (Option String)} (h : m.result? i = some result)
    (here : m.lookups[i]? = some l) (asking : l.stage = .asking answer) : False := by
  obtain ⟨l', there, settled⟩ := result?_eq_some_iff.mp h
  cases here.symm.trans there
  rw [asking] at settled
  cases settled

/-- A cell that is being asked for has a lookup that asks for it, so waiting comes to an end. -/
def Held (m : Lookups σ) : Prop :=
  ∀ mount, m.cell mount = .asking →
    ∃ (i : Nat) (l : Lookup) (answer : _), m.lookups[i]? = some l ∧ l.mount = mount ∧ l.stage = .asking answer

theorem Held.step {store : Store σ} {m m' : Lookups σ} {i : Nat} (held : m.Held) (step : Step store m i m') :
    m'.Held := by
  intro mount asking
  -- A lookup that asks and is not the one that moved still asks.
  have keep : m.cell mount = .asking → (∀ l, m.lookups[i]? = some l → l.stage = .waiting ∨ l.mount ≠ mount) →
      ∃ (j : Nat) (l : Lookup) (answer : _), m'.lookups[j]? = some l ∧ l.mount = mount ∧ l.stage = .asking answer := by
    intro before idle
    obtain ⟨j, l, answer, there, same, asks⟩ := held mount before
    have other : i ≠ j := by
      rintro rfl
      rcases idle l there with waiting | different
      · rw [waiting] at asks
        cases asks
      · exact different same
    exact ⟨j, l, answer, (step.getElem?_ne other).trans there, same, asks⟩
  cases step with
  | @reuse l shape here waiting known =>
    refine keep asking ?_
    intro l' here'
    cases here.symm.trans here'
    exact .inl waiting
  | @ask l here waiting vacant =>
    rw [cell_asked] at asking
    split at asking
    · rename_i same
      exact ⟨i, _, _, getElem?_setStage_self here, same.symm, rfl⟩
    · refine keep asking ?_
      intro l' here'
      cases here.symm.trans here'
      exact .inl waiting
  | @settle l answer here asks =>
    rw [cell_answered] at asking
    split at asking
    · cases result : classify l.query answer <;> simp [result, Cell.ofResult] at asking
    · rename_i different
      refine keep asking ?_
      intro l' here'
      cases here.symm.trans here'
      exact .inr (Ne.symm different)

end Lookups

end Engine

end SecretTemplate
