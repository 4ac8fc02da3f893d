import SecretTemplate.Files

namespace SecretTemplate.Files

open Text.Utf8 (Bytes)

def Target.place? : Target → Option Location
  | .node location (.file ..) | .vacant location => some location
  | .node _ (.directory _) | .vacantDirectory => none

/-- Where a file goes that is written to a path. -/
def place? (fs : Files) (path : String) : Option Location :=
  match fs.target path with
  | .ok target => target.place?
  | .error _ => none

variable {fs after : Files} {location : Location} {path : String} {bytes : Bytes}

theorem node?_put (nonroot : location ≠ []) (node : Node) (other : Location) :
    (fs.put location node).node? other = if other = location then some node else fs.node? other := by
  by_cases root : other = []
  · subst root
    simp [node?, Ne.symm nonroot]
  · have lookup (fs : Files) : fs.node? other = (fs.nodes.find? (·.1 == other)).map (·.2) := by
      simp [node?, root]
    rw [lookup, lookup]
    cases there : fs.node? location with
    | none =>
      have missing : fs.nodes.find? (·.1 == location) = none := by simpa [node?, nonroot] using there
      simp only [put, there, Option.isSome_none, Bool.false_eq_true, if_false, List.find?_append]
      split
      · rename_i same
        subst same
        simp [missing]
      · rename_i different
        simp [Ne.symm different]
    | some old =>
      have key (e : Location × Node) : (if e.1 == location then (e.1, node) else e).1 = e.1 := by
        split <;> rfl
      have found : (fs.nodes.find? (·.1 == location)).map (·.2) = some old := by simpa [node?, nonroot] using there
      obtain ⟨e, first, -⟩ := Option.map_eq_some_iff.mp found
      simp only [put, there, Option.isSome_some, if_true, List.find?_map, Function.comp_def, key, Option.map_map]
      split
      · rename_i same
        subst same
        have here := List.find?_some first
        simp only [first, Option.map_some, here, if_true]
      · rename_i different
        refine Option.map_congr fun entry member => ?_
        have here := List.find?_some member
        rw [beq_iff_eq] at here
        rw [if_neg]
        rw [here, beq_iff_eq]
        exact different

theorem put_put (nonroot : location ≠ []) (first second : Node) :
    (fs.put location first).put location second = fs.put location second := by
  have still : (fs.put location first).node? location = some first := by
    rw [node?_put nonroot, if_pos rfl]
  have twice (e : Location × Node) :
      ((fun e : Location × Node => if e.1 == location then (e.1, second) else e) ∘
        fun e => if e.1 == location then (e.1, first) else e) e = if e.1 == location then (e.1, second) else e := by
    by_cases same : e.1 == location
    · simp only [Function.comp_apply, same, if_true]
    · simp only [Function.comp_apply, same, Bool.false_eq_true, if_false]
  rw [put, still]
  cases there : fs.node? location with
  | none =>
    have missing : fs.nodes.find? (·.1 == location) = none := by simpa [node?, nonroot] using there
    have untouched : fs.nodes.map (fun e => if e.1 == location then (e.1, second) else e) = fs.nodes := by
      refine (List.map_congr_left fun e member => ?_).trans (List.map_id _)
      rw [if_neg (List.find?_eq_none.mp missing e member)]
      rfl
    simp only [put, there, Option.isSome_none, Option.isSome_some, Bool.false_eq_true, if_false, if_true,
      List.map_append, untouched, List.map_cons, List.map_nil, beq_self_eq_true]
  | some old =>
    simp only [put, there, Option.isSome_some, if_true, List.map_map]
    congr 1
    exact List.map_congr_left fun e _ => twice e

theorem node?_of_walk {here : Location} {segments : List String} {target : Target}
    (walked : fs.walk here segments = .ok target) (place : target.place? = some location) :
    location ≠ [] ∧ ∀ readOnly, fs.node? location ≠ some (.directory readOnly) := by
  fun_induction walk fs here segments with
  | case1 | case9 =>
    cases walked
    cases place
  | case4 | case7 | case10 => cases walked
  | case2 here segment rest skip ih => exact ih walked
  | case3 here rest plain ih => exact ih walked
  | case5 here segment rest plain down short _ readOnly directory ih => exact ih walked
  | case6 here segment rest plain down short _ found readOnly there last =>
    cases walked
    have same : here ++ [segment] = location := Option.some.inj place
    subst same
    refine ⟨List.append_ne_nil_of_right_ne_nil _ (List.cons_ne_nil _ _), fun _ directory => ?_⟩
    cases directory.symm.trans there
  | case8 here segment rest plain down short _ missing last =>
    cases walked
    have same : here ++ [segment] = location := Option.some.inj place
    subst same
    refine ⟨List.append_ne_nil_of_right_ne_nil _ (List.cons_ne_nil _ _), fun _ directory => ?_⟩
    cases directory.symm.trans missing

theorem walk_put {here : Location} {segments : List String} {target : Target}
    (walked : fs.walk here segments = .ok target) (place : target.place? = some location) (new : Bytes) :
    (fs.put location (.file new)).walk here segments = .ok (.node location (.file new)) := by
  obtain ⟨nonroot, free⟩ := node?_of_walk walked place
  fun_induction walk fs here segments with
  | case1 | case9 =>
    cases walked
    cases place
  | case4 | case7 | case10 => cases walked
  | case2 here segment rest skip ih =>
    rw [walk, if_pos skip]
    exact ih walked
  | case3 here rest plain ih =>
    rw [walk, if_neg plain, if_pos rfl]
    exact ih walked
  | case5 here segment rest plain down short _ readOnly directory ih =>
    have elsewhere : here ++ [segment] ≠ location := by
      rintro rfl
      exact free readOnly directory
    rw [walk, if_neg plain, if_neg down, if_neg short]
    simp only [node?_put nonroot, elsewhere, if_false]
    rw [show fs.node? (here ++ [segment]) = some (.directory readOnly) from directory]
    exact ih walked
  | case6 here segment rest plain down short _ found readOnly there last =>
    cases walked
    have same : here ++ [segment] = location := Option.some.inj place
    rw [walk, if_neg plain, if_neg down, if_neg short]
    simp only [node?_put nonroot, same, if_true, last]
  | case8 here segment rest plain down short _ missing last =>
    cases walked
    have same : here ++ [segment] = location := Option.some.inj place
    rw [walk, if_neg plain, if_neg down, if_neg short]
    simp only [node?_put nonroot, same, if_true, last]

theorem walk_of_target {target : Target} (h : fs.target path = .ok target) :
    ∃ here segments, fs.walk here segments = .ok target ∧
      ∀ other : Files, other.home = fs.home → other.target path = other.walk here segments := by
  unfold Files.target at h
  dsimp only at h
  split at h
  · cases h
  · rename_i clean
    split at h
    · cases h
    · rename_i nonempty
      split at h
      · cases h
      · rename_i short
        refine ⟨_, _, h, fun other same => ?_⟩
        unfold Files.target
        simp only [if_neg clean, if_neg nonempty, if_neg short, same]

theorem place?_eq_some_iff :
    fs.place? path = some location ↔ ∃ target, fs.target path = .ok target ∧ target.place? = some location := by
  unfold place?
  cases fs.target path <;> simp

theorem write_eq_ok_iff : fs.write path bytes = .ok after ↔
    ∃ location, fs.place? path = some location ∧ fs.permits location = true ∧
      fs.put location (.file bytes) = after := by
  unfold write place? Target.place?
  cases fs.target path with
  | error cause => simp
  | ok target =>
    cases target with
    | node location node =>
      cases node with
      | file => by_cases permitted : fs.permits location = true <;> simp [permitted]
      | directory => simp
    | vacant location => by_cases permitted : fs.permits location = true <;> simp [permitted]
    | vacantDirectory => simp

theorem target_put (place : fs.place? path = some location) (new : Bytes) :
    (fs.put location (.file new)).target path = .ok (.node location (.file new)) := by
  obtain ⟨target, found, here⟩ := place?_eq_some_iff.mp place
  obtain ⟨start, segments, walked, same⟩ := walk_of_target found
  exact (same (fs.put location (.file new)) rfl).trans (walk_put walked here new)

theorem nonroot_of_place (place : fs.place? path = some location) : location ≠ [] := by
  obtain ⟨target, found, here⟩ := place?_eq_some_iff.mp place
  obtain ⟨start, segments, walked, -⟩ := walk_of_target found
  exact (node?_of_walk walked here).1

theorem permits_put (nonroot : location ≠ []) (new : Bytes) :
    (fs.put location (.file new)).permits location = true := by
  rw [permits, node?_put nonroot, if_pos rfl]
  rfl

def Writable (fs : Files) (path : String) : Prop := ∃ bytes after, fs.write path bytes = .ok after

theorem writable_iff : fs.Writable path ↔ ∃ location, fs.place? path = some location ∧ fs.permits location = true := by
  constructor
  · rintro ⟨bytes, after, wrote⟩
    obtain ⟨location, place, permitted, -⟩ := write_eq_ok_iff.mp wrote
    exact ⟨location, place, permitted⟩
  · rintro ⟨location, place, permitted⟩
    exact ⟨[], _, write_eq_ok_iff.mpr ⟨location, place, permitted, rfl⟩⟩

instance (fs : Files) (path : String) : Decidable (fs.Writable path) :=
  decidable_of_iff ((fs.place? path).any fs.permits = true) (by rw [writable_iff, Option.any_eq_true])

/-- A file can be there to be read, and not be written over. -/
example :
    let fs : Files := { nodes := [(["t"], .file [] true)] }
    fs.read "t" = .ok [] ∧ fs.write "t" [] = .error .permissionDenied := ⟨rfl, rfl⟩

theorem Writable.write (writable : fs.Writable path) (bytes : Bytes) : ∃ after, fs.write path bytes = .ok after := by
  obtain ⟨location, place, permitted⟩ := writable_iff.mp writable
  exact ⟨_, write_eq_ok_iff.mpr ⟨location, place, permitted, rfl⟩⟩

theorem write_error {cause : FileError} (refused : fs.write path bytes = .error cause) (bytes' : Bytes) :
    fs.write path bytes' = .error cause := by
  -- The bytes are looked at only where the file may be put.
  unfold write at refused ⊢
  split at refused
  · exact refused
  · split at refused
    · cases refused
    · exact (if_neg ‹_›).trans refused
  · split at refused
    · cases refused
    · exact (if_neg ‹_›).trans refused
  · exact refused
  · exact refused

/-- What was written over something else is what is written at once. -/
theorem write_write {one other : Files} {bytes' : Bytes} (wrote : fs.write path bytes = .ok one)
    (wrote' : fs.write path bytes' = .ok other) : one.write path bytes' = .ok other := by
  obtain ⟨location, place, -, rfl⟩ := write_eq_ok_iff.mp wrote
  obtain ⟨location', place', -, rfl⟩ := write_eq_ok_iff.mp wrote'
  cases place.symm.trans place'
  have nonroot := nonroot_of_place place
  have again : (fs.put location (.file bytes)).place? path = some location :=
    place?_eq_some_iff.mpr ⟨_, target_put place bytes, rfl⟩
  exact write_eq_ok_iff.mpr ⟨location, again, permits_put nonroot bytes, put_put nonroot _ _⟩

theorem read_of_write (wrote : fs.write path bytes = .ok after) : after.read path = .ok bytes := by
  obtain ⟨location, place, -, rfl⟩ := write_eq_ok_iff.mp wrote
  rw [read, target_put place]

/-- The files differ at most in the one to which `path` leads, and that holds `bytes`. -/
def DifferAt (before after : Files) (path : String) (bytes : Bytes) : Prop :=
  ∃ location, before.place? path = some location ∧ after.read path = .ok bytes ∧ after.home = before.home ∧
    after.node? location = some (.file bytes) ∧ ∀ other, other ≠ location → after.node? other = before.node? other

theorem differAt_of_write (wrote : fs.write path bytes = .ok after) : fs.DifferAt after path bytes := by
  obtain ⟨location, place, -, rfl⟩ := write_eq_ok_iff.mp wrote
  have put := fs.node?_put (nonroot_of_place place) (.file bytes)
  refine ⟨location, place, read_of_write wrote, rfl, ?_, fun other different => ?_⟩
  · rw [put, if_pos rfl]
  · rw [put, if_neg different]

end SecretTemplate.Files
