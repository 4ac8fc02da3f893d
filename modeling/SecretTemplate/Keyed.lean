namespace SecretTemplate

def lookup {α : Type} (key : String) : List (String × α) → Option α
  | [] => none
  | (k, v) :: rest => if k = key then some v else lookup key rest

/-- `entries` with `value` under `key`, an earlier value being replaced. -/
def insertEntry {α : Type} (key : String) (value : α) : List (String × α) → List (String × α)
  | [] => [(key, value)]
  | (k, v) :: rest =>
    if key < k then (key, value) :: (k, v) :: rest
    else if key = k then (key, value) :: rest
    else (k, v) :: insertEntry key value rest

abbrev Ascending {α : Type} (entries : List (String × α)) : Prop :=
  entries.Pairwise fun a b => a.1 < b.1

theorem mem_insertEntry {α : Type} {key : String} {value : α} {entries : List (String × α)}
    {e : String × α} (h : e ∈ insertEntry key value entries) : e.1 = key ∨ e ∈ entries := by
  induction entries with
  | nil => simp_all [insertEntry]
  | cons head rest ih =>
    simp only [insertEntry] at h
    split at h
    · rcases List.mem_cons.1 h with rfl | h
      · exact .inl rfl
      · exact .inr h
    · split at h
      · rcases List.mem_cons.1 h with rfl | h
        · exact .inl rfl
        · exact .inr (List.mem_cons_of_mem _ h)
      · rcases List.mem_cons.1 h with rfl | h
        · exact .inr (List.mem_cons_self ..)
        · exact (ih h).imp id (List.mem_cons_of_mem _)

theorem Ascending.insertEntry {α : Type} {key : String} {value : α} {entries : List (String × α)}
    (h : Ascending entries) : Ascending (insertEntry key value entries) := by
  induction entries with
  | nil => simp [SecretTemplate.insertEntry, Ascending]
  | cons head rest ih =>
    obtain ⟨below, sorted⟩ := List.pairwise_cons.1 h
    simp only [SecretTemplate.insertEntry]
    split
    · rename_i lt
      refine List.pairwise_cons.2 ⟨fun e m => ?_, h⟩
      rcases List.mem_cons.1 m with rfl | m
      · exact lt
      · exact String.lt_trans lt (below e m)
    · split
      · rename_i eq
        exact List.pairwise_cons.2 ⟨fun e m => eq ▸ below e m, sorted⟩
      · rename_i notLt ne
        refine List.pairwise_cons.2 ⟨fun e m => ?_, ih sorted⟩
        rcases mem_insertEntry m with e | m
        · rw [e]
          apply Decidable.byContradiction
          intro ge
          exact ne (String.le_antisymm (String.not_lt.1 ge) (String.not_lt.1 notLt))
        · exact below e m

structure Keyed (α : Type) where
  entries : List (String × α)
  ascending : Ascending entries := by exact .nil

namespace Keyed

variable {α : Type}

@[ext] theorem ext {a b : Keyed α} (h : a.entries = b.entries) : a = b := by
  cases a; cases b; cases h; rfl

def empty : Keyed α := ⟨[], .nil⟩

instance : EmptyCollection (Keyed α) := ⟨empty⟩
instance : Inhabited (Keyed α) := ⟨empty⟩

def get? (m : Keyed α) (key : String) : Option α := lookup key m.entries

def contains (m : Keyed α) (key : String) : Bool := (m.get? key).isSome

def insert (m : Keyed α) (key : String) (value : α) : Keyed α :=
  ⟨insertEntry key value m.entries, m.ascending.insertEntry⟩

def modify (m : Keyed α) (key : String) (f : α → α) : Keyed α :=
  match m.get? key with
  | some value => m.insert key (f value)
  | none => m

def keys (m : Keyed α) : List String := m.entries.map (·.1)

def values (m : Keyed α) : List α := m.entries.map (·.2)

def size (m : Keyed α) : Nat := m.entries.length

def isEmpty (m : Keyed α) : Bool := m.entries.isEmpty

end Keyed

end SecretTemplate
