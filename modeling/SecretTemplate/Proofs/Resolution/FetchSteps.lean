import SecretTemplate.Resolution.Progress
import SecretTemplate.Proofs.Engine.FixedAnswers
import SecretTemplate.Proofs.Runs

namespace SecretTemplate.Resolution

open Engine (Shape Lookup Lookups)

variable {σ : Type}

namespace Progress

def readAt (store : Store σ) (p : Progress σ) (i : Nat) (f : Fetch) (shape : Shape) : Progress σ :=
  let s := p.session.log [readNotice shape f.reference]
  (p.withSession (s.read store (shape.readPath f.reference.storePath)).2).setStage i
    (.reading shape (s.read store (shape.readPath f.reference.storePath)).1)

def ended (p : Progress σ) (i : Nat) (f : Fetch) (shape : Shape)
    (answer : Except StoreError (Option Json)) : Progress σ :=
  (p.withSession (p.session.log (outcomeNotices shape f.reference answer))).finish i f.placeholder
    (outcome shape f.reference answer)

inductive Step (store : Store σ) (p : Progress σ) (i : Nat) : Progress σ → Prop
  | start {f : Fetch} (here : p.fetches[i]? = some f) (queued : f.stage = .queued)
      (free : p.mayStart i = true) : Step store p i (p.setStage i .classifying)
  | lookup {f : Fetch} {lookups : Lookups σ} (here : p.fetches[i]? = some f)
      (classifying : f.stage = .classifying) (unsettled : p.lookups.result? i = none)
      (step : Lookups.Step store p.lookups i lookups) : Step store p i { p with lookups }
  | refuse {f : Fetch} {cause : Failure} (here : p.fetches[i]? = some f)
      (classifying : f.stage = .classifying) (result : p.lookups.result? i = some (.error cause)) :
      Step store p i (p.finish i f.placeholder (.error cause))
  | read {f : Fetch} {shape : Shape} (here : p.fetches[i]? = some f)
      (classifying : f.stage = .classifying) (result : p.lookups.result? i = some (.ok shape)) :
      Step store p i (p.readAt store i f shape)
  | finish {f : Fetch} {shape : Shape} {answer : Except StoreError (Option Json)}
      (here : p.fetches[i]? = some f) (reading : f.stage = .reading shape answer) :
      Step store p i (p.ended i f shape answer)

theorem step_of_advance {store : Store σ} {p p' : Progress σ} {i : Nat}
    (h : p.advance store i = some p') : Step store p i p' := by
  unfold advance at h
  cases here : p.fetches[i]? with
  | none => simp [here] at h
  | some f =>
    simp only [here] at h
    cases stage : f.stage with
    | finished outcome => simp [stage] at h
    | queued =>
      simp only [stage, Option.ite_none_right_eq_some, Option.some.injEq] at h
      obtain ⟨free, rfl⟩ := h
      exact .start here stage free
    | classifying =>
      simp only [stage] at h
      cases result : p.lookups.result? i with
      | none =>
        simp only [result, Option.map_eq_some_iff] at h
        obtain ⟨lookups, moved, rfl⟩ := h
        exact .lookup here stage result (Lookups.step_of_advance moved)
      | some r =>
        cases r with
        | error cause =>
          simp only [result, Option.some.injEq] at h
          subst h
          exact .refuse here stage result
        | ok shape =>
          simp only [result, Option.some.injEq] at h
          subst h
          exact .read here stage result
    | reading shape answer =>
      simp only [stage, Option.some.injEq] at h
      subst h
      exact .finish here stage

theorem step_eq_or_step (store : Store σ) (p : Progress σ) (i : Nat) :
    p.step store i = p ∨ Step store p i (p.step store i) := by
  unfold step
  cases h : p.advance store i with
  | none => exact .inl rfl
  | some p' => exact .inr (step_of_advance h)

theorem run_append (store : Store σ) (p : Progress σ) (schedule later : List Nat) :
    p.run store (schedule ++ later) = (p.run store schedule).run store later := List.foldl_append

theorem rounds_eq_run (store : Store σ) (n : Nat) (p : Progress σ) :
    ∃ schedule, rounds store n p = p.run store schedule := by
  induction n generalizing p with
  | zero => exact ⟨[], rfl⟩
  | succ n ih =>
    unfold rounds
    split
    · exact ⟨[], rfl⟩
    · obtain ⟨later, same⟩ := ih (p.run store p.window)
      exact ⟨p.window ++ later, by rw [same, run_append]⟩

theorem getElem?_setStage_self {p : Progress σ} {i : Nat} {f : Fetch} {stage : Stage}
    (here : p.fetches[i]? = some f) : (p.setStage i stage).fetches[i]? = some { f with stage } :=
  getElem?_modify_self here _

theorem getElem?_setStage_ne (p : Progress σ) {i j : Nat} (stage : Stage) (other : i ≠ j) :
    (p.setStage i stage).fetches[j]? = p.fetches[j]? :=
  List.getElem?_modify_ne _ _ other

theorem moved_or_same {p : Progress σ} {i j : Nat} {f f' : Fetch} {stage : Stage}
    (here : p.fetches[i]? = some f) (there : (p.setStage i stage).fetches[j]? = some f') :
    i = j ∧ f' = { f with stage } ∨ p.fetches[j]? = some f' :=
  modified_or_same here there

end Progress

end SecretTemplate.Resolution
