import Mathlib.Data.List.Forall2
import SecretTemplate.Proofs.Keyed.Access

namespace SecretTemplate

section Members

variable {α β γ : Type} {R : α → β → Prop} {left : List α} {right : List β}

theorem rel_getElem? (h : List.Forall₂ R left right) (i : Nat) : Option.Rel R left[i]? right[i]? := by
  induction h generalizing i with
  | nil => exact .none
  | cons head _ ih =>
    cases i with
    | zero => exact .some head
    | succ i => exact ih i

theorem forall₂_modify (h : List.Forall₂ R left right) (i : Nat) {f : α → α} {g : β → β}
    (related : ∀ a b, R a b → R (f a) (g b)) : List.Forall₂ R (left.modify i f) (right.modify i g) := by
  induction h generalizing i with
  | nil =>
    rw [List.modify_nil, List.modify_nil]
    exact .nil
  | cons head tail ih =>
    cases i with
    | zero => exact .cons (related _ _ head) tail
    | succ i => exact .cons head (ih i)

theorem map_eq_of_forall₂ (h : List.Forall₂ R left right) {f : α → γ} {g : β → γ} (same : ∀ a b, R a b → f a = g b) :
    left.map f = right.map g := by
  induction h with
  | nil => rfl
  | cons head _ ih => rw [List.map_cons, List.map_cons, same _ _ head, ih]

end Members

section Entries

variable {α β : Type} {R : α → β → Prop} {left : List (String × α)} {right : List (String × β)}

abbrev Entrywise (R : α → β → Prop) : List (String × α) → List (String × β) → Prop :=
  List.Forall₂ fun a b => a.1 = b.1 ∧ R a.2 b.2

theorem Entrywise.of_keys (names : left.map (·.1) = right.map (·.1))
    (each : List.Forall₂ R (left.map (·.2)) (right.map (·.2))) : Entrywise R left right := by
  induction left generalizing right with
  | nil =>
    cases right with
    | nil => exact .nil
    | cons => cases names
  | cons a rest ih =>
    cases right with
    | nil => cases names
    | cons b rest' =>
      obtain ⟨name, names⟩ := List.cons.inj names
      cases each with
      | cons head tail => exact .cons ⟨name, head⟩ (ih names tail)

theorem Entrywise.lookup (h : Entrywise R left right) (key : String) :
    Option.Rel R (SecretTemplate.lookup key left) (SecretTemplate.lookup key right) := by
  induction h with
  | nil => exact .none
  | @cons a b _ _ head _ ih =>
    obtain ⟨same, related⟩ := head
    simp only [SecretTemplate.lookup]
    rw [same]
    by_cases here : b.1 = key
    · rw [if_pos here, if_pos here]
      exact .some related
    · rw [if_neg here, if_neg here]
      exact ih

theorem Entrywise.insertEntry (h : Entrywise R left right) (key : String) {a : α} {b : β} (related : R a b) :
    Entrywise R (SecretTemplate.insertEntry key a left) (SecretTemplate.insertEntry key b right) := by
  induction h with
  | nil => exact .cons ⟨rfl, related⟩ .nil
  | @cons e e' _ _ head tail ih =>
    simp only [SecretTemplate.insertEntry]
    rw [head.1]
    by_cases before : key < e'.1
    · rw [if_pos before, if_pos before]
      exact .cons ⟨rfl, related⟩ (.cons ⟨rfl, head.2⟩ tail)
    · rw [if_neg before, if_neg before]
      by_cases here : key = e'.1
      · rw [if_pos here, if_pos here]
        exact .cons ⟨rfl, related⟩ tail
      · rw [if_neg here, if_neg here]
        exact .cons ⟨rfl, head.2⟩ ih

end Entries

namespace Keyed

variable {α β : Type} {R : α → β → Prop} {a : Keyed α} {b : Keyed β}

theorem get?_entrywise (h : Entrywise R a.entries b.entries) (key : String) :
    Option.Rel R (a.get? key) (b.get? key) := h.lookup key

theorem modify_entrywise (h : Entrywise R a.entries b.entries) (key : String) {f : α → α} {g : β → β}
    (related : ∀ x y, R x y → R (f x) (g y)) : Entrywise R (a.modify key f).entries (b.modify key g).entries := by
  have found := get?_entrywise h key
  unfold modify
  generalize a.get? key = x, b.get? key = y at found
  cases found with
  | none => exact h
  | some held => exact h.insertEntry key (related _ _ held)

end Keyed

end SecretTemplate
