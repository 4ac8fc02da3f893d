import Mathlib.Data.List.Induction
import Mathlib.Order.Lattice

namespace SecretTemplate

variable {π ι ε : Type} {step : π → ι → π} {p : π}

theorem foldl_induction {motive : List ι → π → Prop} (schedule : List ι) (start : motive [] p)
    (kept : ∀ steps i, steps ++ [i] <+: schedule → motive steps (steps.foldl step p) →
      motive (steps ++ [i]) (step (steps.foldl step p) i)) : motive schedule (schedule.foldl step p) := by
  induction schedule using List.reverseRecOn with
  | nil => exact start
  | append_singleton steps i ih =>
    rw [List.foldl_append]
    refine kept steps i List.prefix_rfl (ih fun earlier j passed => kept earlier j ?_)
    exact passed.trans (List.prefix_append ..)

/-- What every move keeps is kept by a run, whose steps are moves or change nothing. -/
theorem run_induction {Moves : π → ι → π → Prop} {motive : π → Prop}
    (moves : ∀ p i, step p i = p ∨ Moves p i (step p i)) (schedule : List ι) (start : motive p)
    (kept : ∀ {steps : List ι} {q : π} {i : ι}, steps <+: schedule → motive (steps.foldl step p) →
      Moves (steps.foldl step p) i q → motive q) : motive (schedule.foldl step p) := by
  refine foldl_induction (motive := fun _ q => motive q) schedule start fun steps i passed before => ?_
  rcases moves (steps.foldl step p) i with same | moved
  · rw [same]
    exact before
  · exact kept ((List.prefix_append ..).trans passed) before moved

/-- What is seen of a run, step by step. -/
def historyOf (step : π → ι → π) (seen? : π → π → ι → Option ε) (p : π) : List ι → List ε
  | [] => []
  | i :: rest => (seen? p (step p i) i).toList ++ historyOf step seen? (step p i) rest

theorem historyOf_concat (step : π → ι → π) (seen? : π → π → ι → Option ε) (p : π) (steps : List ι) (i : ι) :
    historyOf step seen? p (steps ++ [i]) =
      historyOf step seen? p steps ++ (seen? (steps.foldl step p) (step (steps.foldl step p) i) i).toList := by
  induction steps generalizing p with
  | nil => exact List.append_nil _
  | cons j steps ih => rw [List.cons_append, historyOf, ih, historyOf, List.append_assoc, List.foldl_cons]

/-- What every move keeps together with what is seen of it is kept by a run together with its history. -/
theorem history_induction {seen? : π → π → ι → Option ε} {Moves : π → ι → π → ε → Prop}
    {motive : π → List ε → Prop} (still : ∀ p i, seen? p p i = none)
    (moves : ∀ p i, step p i = p ∨ ∃ e, seen? p (step p i) i = some e ∧ Moves p i (step p i) e)
    (schedule : List ι) (start : motive p [])
    (kept : ∀ {steps : List ι} {q : π} {i : ι} {told : List ε} {e : ε}, steps <+: schedule →
      motive (steps.foldl step p) told → Moves (steps.foldl step p) i q e → motive q (told ++ [e])) :
    motive (schedule.foldl step p) (historyOf step seen? p schedule) := by
  refine foldl_induction (motive := fun steps q => motive q (historyOf step seen? p steps)) schedule start
    fun steps i passed before => ?_
  rw [historyOf_concat]
  rcases moves (steps.foldl step p) i with same | ⟨e, seen, moved⟩
  · rw [same, still, Option.toList_none, List.append_nil]
    exact before
  · rw [seen, Option.toList_some]
    exact kept ((List.prefix_append ..).trans passed) before moved

section Descent

variable {advance : π → ι → Option π} {left : π → Nat}

theorem foldl_advance_le (lowers : ∀ p i q, advance p i = some q → left q < left p) (p : π) (schedule : List ι) :
    left (schedule.foldl (fun p i => (advance p i).getD p) p) ≤ left p := by
  induction schedule generalizing p with
  | nil => exact Nat.le_refl _
  | cons i rest ih =>
    rw [List.foldl_cons]
    apply (ih _).trans
    cases advanced : advance p i with
    | none => exact Nat.le_refl _
    | some q => exact (lowers p i q advanced).le

/-- Where every move lowers a number, a run lowers it that gets to a move which can be made at once. -/
theorem foldl_advance_lt {schedule : List ι} (lowers : ∀ p i q, advance p i = some q → left q < left p)
    (moves : ∃ i ∈ schedule, ∃ q, advance p i = some q) :
    left (schedule.foldl (fun p i => (advance p i).getD p) p) < left p := by
  induction schedule with
  | nil =>
    obtain ⟨i, member, -⟩ := moves
    cases member
  | cons i rest ih =>
    rw [List.foldl_cons]
    cases advanced : advance p i with
    | none =>
      obtain ⟨j, member, q, moved⟩ := moves
      rcases List.mem_cons.mp member with rfl | later
      · cases advanced.symm.trans moved
      · exact ih ⟨j, later, q, moved⟩
    | some q => exact (foldl_advance_le lowers q rest).trans_lt (lowers p i q advanced)

end Descent

end SecretTemplate
