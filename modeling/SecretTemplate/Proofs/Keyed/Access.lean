import Mathlib.Data.List.Nodup
import SecretTemplate.Keyed

namespace SecretTemplate

variable {α β : Type}

theorem lookup_insertEntry (key other : String) (value : α) (entries : List (String × α)) :
    lookup other (insertEntry key value entries) =
      if other = key then some value else lookup other entries := by
  induction entries with
  | nil => simp [insertEntry, lookup, eq_comm]
  | cons head rest ih =>
    obtain ⟨k, v⟩ := head
    simp only [insertEntry]
    split
    · simp [lookup, eq_comm]
    · split
      · rename_i same
        subst same
        by_cases found : other = key
        · simp [lookup, found]
        · simp [lookup, found, Ne.symm found]
      · rename_i different
        simp only [lookup, ih]
        by_cases found : k = other
        · subst found
          simp [Ne.symm different]
        · simp [found]

theorem mem_of_lookup {key : String} {value : α} {entries : List (String × α)}
    (found : lookup key entries = some value) : (key, value) ∈ entries := by
  induction entries with
  | nil => simp [lookup] at found
  | cons head rest ih =>
    obtain ⟨k, v⟩ := head
    simp only [lookup] at found
    split at found
    · rename_i same
      cases found
      rw [same]
      exact List.mem_cons_self ..
    · exact List.mem_cons_of_mem _ (ih found)

theorem lookup_eq_none {key : String} {entries : List (String × α)} :
    lookup key entries = none ↔ key ∉ entries.map (·.1) := by
  induction entries with
  | nil => simp [lookup]
  | cons head rest ih =>
    by_cases same : head.1 = key
    · simp [lookup, same]
    · simp [lookup, same, ih, Ne.symm same]

theorem lookup_eq_some_iff {key : String} {value : α} {entries : List (String × α)}
    (distinct : (entries.map (·.1)).Nodup) :
    lookup key entries = some value ↔ (key, value) ∈ entries := by
  refine ⟨mem_of_lookup, fun member => ?_⟩
  induction entries with
  | nil => cases member
  | cons head rest ih =>
    obtain ⟨fresh, tail⟩ := List.nodup_cons.mp distinct
    rcases List.mem_cons.mp member with rfl | member
    · simp [lookup]
    · have different : head.1 ≠ key := by
        intro same
        apply fresh
        exact List.mem_map.mpr ⟨(key, value), member, same.symm⟩
      simp [lookup, different, ih tail member]

theorem Ascending.nodup_keys {entries : List (String × α)} (h : Ascending entries) :
    (entries.map (·.1)).Nodup := by
  refine List.pairwise_map.mpr (h.imp ?_)
  intro a b lt same
  exact String.lt_irrefl _ (same ▸ lt)

theorem lookup_perm {left right : List (String × α)} (distinct : (left.map (·.1)).Nodup)
    (perm : left.Perm right) (key : String) : lookup key left = lookup key right := by
  have same : (right.map (·.1)).Nodup := (perm.map _).nodup_iff.mp distinct
  apply Option.ext
  intro value
  rw [lookup_eq_some_iff distinct, lookup_eq_some_iff same, perm.mem_iff]

theorem lookup_map (f : α → β) (key : String) (entries : List (String × α)) :
    lookup key (entries.map fun e => (e.1, f e.2)) = (lookup key entries).map f := by
  induction entries with
  | nil => rfl
  | cons head rest ih =>
    simp only [List.map_cons, lookup]
    split
    · rfl
    · exact ih

theorem lookup_filterMap (f : String → α → Option β) (key : String) {entries : List (String × α)}
    (distinct : (entries.map (·.1)).Nodup) :
    lookup key (entries.filterMap fun e => (f e.1 e.2).map (e.1, ·)) =
      (lookup key entries).bind (f key) := by
  induction entries with
  | nil => rfl
  | cons head rest ih =>
    obtain ⟨k, v⟩ := head
    obtain ⟨fresh, tail⟩ := List.nodup_cons.mp distinct
    by_cases same : k = key
    · subst same
      have absent := lookup_eq_none.mpr fresh
      cases hf : f k v with
      | none => simp [hf, lookup, ih tail, absent]
      | some w => simp [hf, lookup]
    · cases hf : f k v <;> simp [hf, lookup, same, ih tail]

namespace Keyed

@[simp] theorem get?_empty (key : String) : (∅ : Keyed α).get? key = none := rfl

@[simp] theorem get?_insert (m : Keyed α) (key other : String) (value : α) :
    (m.insert key value).get? other = if other = key then some value else m.get? other :=
  lookup_insertEntry key other value m.entries

theorem get?_modify (m : Keyed α) (key other : String) (f : α → α) :
    (m.modify key f).get? other = if other = key then (m.get? other).map f else m.get? other := by
  unfold modify
  cases found : m.get? key with
  | none =>
    by_cases same : other = key
    · simp [same, found]
    · simp [same]
  | some value =>
    by_cases same : other = key
    · simp [same, found]
    · simp [same]

theorem get?_eq_some_iff {m : Keyed α} {key : String} {value : α} :
    m.get? key = some value ↔ (key, value) ∈ m.entries :=
  lookup_eq_some_iff m.ascending.nodup_keys

theorem contains_iff {m : Keyed α} {key : String} :
    m.contains key = true ↔ ∃ value, m.get? key = some value :=
  Option.isSome_iff_exists

theorem mem_keys_iff {m : Keyed α} {key : String} :
    key ∈ m.keys ↔ ∃ value, m.get? key = some value := by
  simp [keys, get?_eq_some_iff]

theorem ext_get? {a b : Keyed α} (h : ∀ key, a.get? key = b.get? key) : a = b := by
  apply ext
  have perm : a.entries.Perm b.entries := by
    refine (List.perm_ext_iff_of_nodup ?_ ?_).mpr ?_
    · exact List.Nodup.of_map _ a.ascending.nodup_keys
    · exact List.Nodup.of_map _ b.ascending.nodup_keys
    · rintro ⟨key, value⟩
      rw [← get?_eq_some_iff, ← get?_eq_some_iff, h]
  refine perm.eq_of_pairwise ?_ a.ascending b.ascending
  intro x y _ _ lt gt
  exact (String.lt_irrefl _ (String.lt_trans lt gt)).elim

def filterMap (f : String → α → Option β) (m : Keyed α) : Keyed β where
  entries := m.entries.filterMap fun e => (f e.1 e.2).map (e.1, ·)
  ascending := by
    refine m.ascending.filterMap _ ?_
    intro a b lt x hx y hy
    obtain ⟨_, _, rfl⟩ := Option.map_eq_some_iff.mp hx
    obtain ⟨_, _, rfl⟩ := Option.map_eq_some_iff.mp hy
    exact lt

@[simp] theorem get?_filterMap (f : String → α → Option β) (m : Keyed α) (key : String) :
    (m.filterMap f).get? key = (m.get? key).bind (f key) :=
  lookup_filterMap f key m.ascending.nodup_keys

end Keyed

end SecretTemplate
