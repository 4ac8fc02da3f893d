import Mathlib.Algebra.Order.BigOperators.Group.Finset
import SecretTemplate.Proofs.Resolution.FetchSteps

namespace SecretTemplate

open Engine (Shape Lookup Lookups)

theorem sum_range_lt {n i : Nat} {f g : Nat → Nat} (bound : i < n) (lower : f i < g i) (same : ∀ j, i ≠ j → f j = g j) :
    ∑ j ∈ Finset.range n, f j < ∑ j ∈ Finset.range n, g j := by
  refine Finset.sum_lt_sum ?_ ⟨i, Finset.mem_range.mpr bound, lower⟩
  intro j _
  by_cases here : i = j
  · subst here
    exact lower.le
  · exact (same j here).le

namespace Engine

def Lookup.Stage.left : Lookup.Stage → Nat
  | .waiting => 2
  | .asking _ => 1
  | .settled _ => 0

theorem Lookup.Stage.left_le (stage : Lookup.Stage) : stage.left ≤ 2 := by
  cases stage with
  | waiting => exact Nat.le_refl 2
  | asking => exact Nat.le_succ 1
  | settled => exact Nat.zero_le 2

theorem Lookups.Step.left_lt {σ : Type} {store : Store σ} {m m' : Lookups σ} {i : Nat}
    (step : Lookups.Step store m i m') :
    ∃ l l' : Lookup, m.lookups[i]? = some l ∧ m'.lookups[i]? = some l' ∧ l'.stage.left < l.stage.left := by
  cases step with
  | reuse here waiting known =>
    refine ⟨_, _, here, getElem?_setStage_self here, ?_⟩
    rw [waiting]
    exact Nat.zero_lt_two
  | ask here waiting vacant =>
    refine ⟨_, _, here, getElem?_setStage_self here, ?_⟩
    rw [waiting]
    exact Nat.lt_succ_self 1
  | settle here asking =>
    refine ⟨_, _, here, getElem?_setStage_self here, ?_⟩
    rw [asking]
    exact Nat.zero_lt_one

end Engine

namespace Resolution.Progress

variable {σ : Type} {store : Store σ} {p p' : Progress σ} {i : Nat}

def left (p : Progress σ) (i : Nat) : Nat :=
  match p.fetches[i]? with
  | none => 0
  | some f =>
    match f.stage with
    | .queued => 5
    | .classifying => 2 + (p.lookups.lookups[i]?.map fun l => l.stage.left).getD 0
    | .reading .. => 1
    | .finished _ => 0

def remaining (p : Progress σ) : Nat := ∑ i ∈ Finset.range p.fetches.length, p.left i

theorem left_of_stage {f : Fetch} (here : p.fetches[i]? = some f) :
    p.left i = match f.stage with
      | .queued => 5
      | .classifying => 2 + (p.lookups.lookups[i]?.map fun l => l.stage.left).getD 0
      | .reading .. => 1
      | .finished _ => 0 := by
  simp only [left, here]

theorem left_classifying {f : Fetch} (here : p.fetches[i]? = some f) (classifying : f.stage = .classifying) :
    2 ≤ p.left i ∧ p.left i < 5 := by
  rw [left_of_stage here, classifying]
  cases p.lookups.lookups[i]? with
  | none => simp
  | some l =>
    have few := l.stage.left_le
    simp only [Option.map_some, Option.getD_some]
    omega

theorem left_le (p : Progress σ) (i : Nat) : p.left i ≤ 5 := by
  cases here : p.fetches[i]? with
  | none => simp [left, here]
  | some f =>
    cases stage : f.stage with
    | classifying => exact (left_classifying here stage).2.le
    | _ => simp [left_of_stage here, stage]

theorem remaining_le (p : Progress σ) : p.remaining ≤ 5 * p.fetches.length := by
  have bound := Finset.sum_le_card_nsmul (Finset.range p.fetches.length) p.left 5 fun i _ => p.left_le i
  rw [Finset.card_range, Nat.nsmul_eq_mul, Nat.mul_comm] at bound
  exact bound

theorem left_pos {f : Fetch} (here : p.fetches[i]? = some f) (unfinished : f.isFinished = false) :
    0 < p.left i := by
  cases stage : f.stage with
  | finished outcome => simp [Fetch.isFinished, stage] at unfinished
  | classifying =>
    have bounds := left_classifying here stage
    omega
  | queued => simp [left_of_stage here, stage]
  | reading shape answer => simp [left_of_stage here, stage]

theorem left_finish {f : Fetch} (here : p.fetches[i]? = some f) (placeholder : String) (outcome : Outcome) :
    (p.finish i placeholder outcome).left i = 0 := by
  have there : (p.finish i placeholder outcome).fetches[i]? = some { f with stage := .finished outcome } :=
    getElem?_setStage_self here
  rw [left_of_stage there]

theorem left_readAt {f : Fetch} (here : p.fetches[i]? = some f) (shape : Shape) :
    (p.readAt store i f shape).left i = 1 := by
  obtain ⟨answer, there⟩ : ∃ answer, (p.readAt store i f shape).fetches[i]? =
      some { f with stage := .reading shape answer } := ⟨_, getElem?_setStage_self (p := p) here⟩
  rw [left_of_stage there]

theorem left_ended {f : Fetch} (here : p.fetches[i]? = some f) (shape : Shape)
    (answer : Except StoreError (Option Json)) : (p.ended i f shape answer).left i = 0 := by
  have there : (p.ended i f shape answer).fetches[i]? =
      some { f with stage := .finished (outcome shape f.reference answer) } :=
    getElem?_setStage_self (p := p) here
  rw [left_of_stage there]

theorem Step.length (step : Step store p i p') : p'.fetches.length = p.fetches.length := by
  cases step with
  | lookup => rfl
  | _ => exact List.length_modify ..

theorem Step.left_ne (step : Step store p i p') {j : Nat} (other : i ≠ j) : p'.left j = p.left j := by
  have same : p'.fetches[j]? = p.fetches[j]? ∧ p'.lookups.lookups[j]? = p.lookups.lookups[j]? := by
    cases step with
    | lookup here classifying unsettled moved => exact ⟨rfl, moved.getElem?_ne other⟩
    | _ => exact ⟨getElem?_setStage_ne _ _ other, rfl⟩
  simp only [left, same.1, same.2]

theorem Step.left_lt (step : Step store p i p') : p'.left i < p.left i := by
  cases step with
  | @start f here queued free =>
    have before : p.left i = 5 := by rw [left_of_stage here, queued]
    have after := left_classifying (p := p.setStage i .classifying) (getElem?_setStage_self here) rfl
    omega
  | @lookup f lookups here classifying unsettled moved =>
    obtain ⟨l, l', there, there', fewer⟩ := moved.left_lt
    rw [left_of_stage here, classifying, left_of_stage (p := { p with lookups }) here, classifying]
    simpa [there, there'] using fewer
  | refuse here classifying result =>
    have before := left_classifying here classifying
    rw [left_finish here]
    omega
  | read here classifying result =>
    have before := left_classifying here classifying
    rw [left_readAt here]
    omega
  | @finish f shape answer here reading =>
    have before : p.left i = 1 := by rw [left_of_stage here, reading]
    rw [left_ended here]
    omega

theorem Step.remaining_lt (step : Step store p i p') : p'.remaining < p.remaining := by
  have here : i < p.fetches.length := by
    cases step <;> exact (List.getElem?_eq_some_iff.mp ‹_›).1
  unfold remaining
  rw [step.length]
  exact sum_range_lt here step.left_lt fun j other => step.left_ne other

end Resolution.Progress

end SecretTemplate
