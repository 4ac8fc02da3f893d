import SecretTemplate.Proofs.Engine.History
import SecretTemplate.Proofs.Resolution.StepsLeft

namespace SecretTemplate.Engine.Lookups

variable {σ : Type} {store : Store σ} {m m' : Lookups σ} {i : Nat}

def left (m : Lookups σ) (i : Nat) : Nat := (m.lookups[i]?.map fun l => l.stage.left).getD 0

def remaining (m : Lookups σ) : Nat := ∑ i ∈ Finset.range m.lookups.length, m.left i

theorem left_of_stage {l : Lookup} (here : m.lookups[i]? = some l) : m.left i = l.stage.left := by
  rw [left, here]
  rfl

theorem left_le (m : Lookups σ) (i : Nat) : m.left i ≤ 2 := by
  cases here : m.lookups[i]? with
  | none => simp [left, here]
  | some l =>
    rw [left_of_stage here]
    exact l.stage.left_le

theorem remaining_le (m : Lookups σ) : m.remaining ≤ 2 * m.lookups.length := by
  have bound := Finset.sum_le_card_nsmul (Finset.range m.lookups.length) m.left 2 fun i _ => m.left_le i
  rw [Finset.card_range, Nat.nsmul_eq_mul, Nat.mul_comm] at bound
  exact bound

theorem Step.remaining_lt (step : Step store m i m') : m'.remaining < m.remaining := by
  obtain ⟨l, l', here, there, fewer⟩ := step.left_lt
  have lower : m'.left i < m.left i := by
    rw [left_of_stage here, left_of_stage there]
    exact fewer
  have bound := (List.getElem?_eq_some_iff.mp here).1
  unfold remaining
  rw [step.length]
  apply sum_range_lt bound lower
  intro j other
  rw [left, left, step.getElem?_ne other]

theorem remaining_run_lt {schedule : List Nat} (moves : ∃ i ∈ schedule, ∃ m', m.advance store i = some m') :
    (m.run store schedule).remaining < m.remaining :=
  foldl_advance_lt (fun _ _ _ advanced => (step_of_advance advanced).remaining_lt) moves

theorem Held.run (held : m.Held) (store : Store σ) (schedule : List Nat) : (m.run store schedule).Held :=
  run_induction (step_eq_or_step store) schedule held fun _ held step => held.step step

theorem Held.ofPaths (paths : List String) (s : Session σ) : (ofPaths paths s).Held := by
  intro mount asking
  cases asking

theorem length_run (store : Store σ) (m : Lookups σ) (schedule : List Nat) :
    (m.run store schedule).lookups.length = m.lookups.length :=
  run_induction (motive := fun q => q.lookups.length = m.lookups.length) (step_eq_or_step store) schedule rfl
    fun _ same step => step.length.trans same

def IsSettled (m : Lookups σ) : Prop := ∀ i < m.lookups.length, ∃ result, m.result? i = some result

theorem Held.exists_move (held : m.Held) (store : Store σ) (unsettled : ¬ m.IsSettled) :
    ∃ i ∈ List.range m.lookups.length, ∃ m', m.advance store i = some m' := by
  have inside {j : Nat} {l : Lookup} (there : m.lookups[j]? = some l) : j ∈ List.range m.lookups.length :=
    List.mem_range.mpr (List.getElem?_eq_some_iff.mp there).1
  simp only [IsSettled, not_forall] at unsettled
  obtain ⟨i, bound, open_at⟩ := unsettled
  have here : m.lookups[i]? = some m.lookups[i] := List.getElem?_eq_getElem bound
  cases moves : m.advance store i with
  | some m' => exact ⟨i, inside here, m', moves⟩
  | none =>
    rcases blocked_of_advance_eq_none here moves with ⟨result, settled⟩ | ⟨-, asking⟩
    · exact absurd ⟨result, result?_eq_some_iff.mpr ⟨_, here, settled⟩⟩ open_at
    · -- The one that asks for the same mount is not held up.
      obtain ⟨j, l, answer, there, -, asks⟩ := held _ asking
      cases moves : m.advance store j with
      | some m' => exact ⟨j, inside there, m', moves⟩
      | none =>
        rcases blocked_of_advance_eq_none there moves with ⟨result, settled⟩ | ⟨waiting, -⟩
        · cases asks.symm.trans settled
        · cases asks.symm.trans waiting

theorem settled_of_remaining (none : m.remaining = 0) : m.IsSettled := by
  intro i bound
  have here : m.lookups[i]? = some m.lookups[i] := List.getElem?_eq_getElem bound
  have zero : m.left i = 0 := Finset.sum_eq_zero_iff.mp none i (Finset.mem_range.mpr bound)
  rw [left_of_stage here] at zero
  cases stage : m.lookups[i].stage with
  | settled result => exact ⟨result, result?_eq_some_iff.mpr ⟨_, here, stage⟩⟩
  | waiting =>
    rw [stage] at zero
    cases zero
  | asking answer =>
    rw [stage] at zero
    cases zero

theorem IsSettled.run (settled : m.IsSettled) (store : Store σ) (schedule : List Nat) :
    m.run store schedule = m := by
  apply run_induction (motive := (· = m)) (step_eq_or_step store) schedule rfl
  intro steps q i _ same moved
  rw [same] at moved
  obtain ⟨l, l', here, -, fewer⟩ := moved.left_lt
  obtain ⟨result, known⟩ := settled i (List.getElem?_eq_some_iff.mp here).1
  obtain ⟨l'', here', stage⟩ := result?_eq_some_iff.mp known
  cases here.symm.trans here'
  rw [stage] at fewer
  cases fewer

theorem Held.rounds_settled (held : m.Held) (store : Store σ) (n : Nat) (few : m.remaining ≤ n) :
    (m.run store (List.replicate n (List.range m.lookups.length)).flatten).IsSettled := by
  induction n generalizing m with
  | zero => exact settled_of_remaining (Nat.le_zero.mp few)
  | succ n ih =>
    by_cases settled : m.IsSettled
    · rw [settled.run]
      exact settled
    · have fewer := remaining_run_lt (held.exists_move store settled)
      have later := ih (held.run store (List.range m.lookups.length)) (by omega)
      rw [length_run] at later
      rw [List.replicate_succ, List.flatten_cons, Lookups.run, List.foldl_append]
      exact later

theorem Held.complete_settled (held : m.Held) (store : Store σ) : (m.complete store).IsSettled := by
  have few := m.remaining_le
  exact held.rounds_settled store _ (by omega)

theorem exists_settled (paths : List String) (s : Session σ) (store : Store σ) (schedule : List Nat) :
    ∃ later, ∀ i < paths.length, ∃ result,
      ((ofPaths paths s).run store (schedule ++ later)).result? i = some result := by
  let m := (ofPaths paths s).run store schedule
  have settled := ((Held.ofPaths paths s).run store schedule).complete_settled store
  have length : (m.complete store).lookups.length = paths.length := by
    rw [Lookups.complete, length_run, length_run]
    exact List.length_map _
  rw [IsSettled, length] at settled
  refine ⟨(List.replicate (3 * m.lookups.length) (List.range m.lookups.length)).flatten, ?_⟩
  intro i bound
  rw [Lookups.run, List.foldl_append]
  exact settled i bound

end SecretTemplate.Engine.Lookups
