import Mathlib.Data.List.Basic

namespace SecretTemplate

variable {α : Type} {l : List α} {i j : Nat} {a b : α}

theorem getElem?_modify_self (here : l[i]? = some a) (g : α → α) : (l.modify i g)[i]? = some (g a) := by
  rw [List.getElem?_modify_eq, here]
  rfl

theorem modified_or_same {g : α → α} (here : l[i]? = some a) (there : (l.modify i g)[j]? = some b) :
    i = j ∧ b = g a ∨ l[j]? = some b := by
  by_cases same : i = j
  · subst same
    rw [getElem?_modify_self here] at there
    exact .inl ⟨rfl, (Option.some.inj there).symm⟩
  · rw [List.getElem?_modify_ne _ _ same] at there
    exact .inr there

theorem modify_split (here : l[i]? = some a) (g : α → α) :
    ∃ before after, l = before ++ a :: after ∧ before.length = i ∧ l.modify i g = before ++ g a :: after := by
  induction l generalizing i with
  | nil => simp at here
  | cons b l ih =>
    cases i with
    | zero =>
      simp only [List.getElem?_cons_zero, Option.some.injEq] at here
      subst here
      exact ⟨[], l, rfl, rfl, rfl⟩
    | succ i =>
      obtain ⟨before, after, whole, length, changed⟩ := ih (by simpa using here)
      refine ⟨b :: before, after, ?_, ?_, ?_⟩
      · rw [whole, List.cons_append]
      · rw [List.length_cons, length]
      · rw [List.modify_succ_cons, changed, List.cons_append]

theorem countP_modify (here : l[i]? = some a) (g : α → α) (p : α → Bool) :
    (l.modify i g).countP p + (if p a then 1 else 0) = l.countP p + if p (g a) then 1 else 0 := by
  obtain ⟨before, after, whole, -, changed⟩ := modify_split here g
  rw [changed, whole]
  simp only [List.countP_append, List.countP_cons]
  omega

/-- A member of a list that has grown at its end is the new one, or was there before. -/
theorem split_concat {front after : List α} (whole : l ++ [b] = front ++ a :: after) :
    (l = front ∧ b = a ∧ after = []) ∨ ∃ later, after = later ++ [b] ∧ l = front ++ a :: later := by
  rcases after.eq_nil_or_concat with rfl | ⟨later, z, rfl⟩
  · obtain ⟨same, single⟩ := List.append_inj' whole rfl
    cases single
    exact .inl ⟨same, rfl, rfl⟩
  · rw [List.concat_eq_append, ← List.cons_append, ← List.append_assoc] at whole
    obtain ⟨same, single⟩ := List.append_inj' whole rfl
    cases single
    exact .inr ⟨later, List.concat_eq_append, same⟩

end SecretTemplate
