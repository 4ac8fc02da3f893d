import SecretTemplate.Engine.Shape
import SecretTemplate.Proofs.Engine.Answers
import SecretTemplate.Proofs.Text.Trimming

namespace SecretTemplate.Engine

def belowData : Option (List Char) → List Char
  | some rest => ['d', 'a', 't', 'a', '/'] ++ rest
  | none => ['d', 'a', 't', 'a']

theorem belowData_injective : Function.Injective belowData := by
  intro a b same
  cases a with
  | none =>
    cases b with
    | none => rfl
    | some rest => simp [belowData] at same
  | some rest =>
    cases b with
    | none => simp [belowData] at same
    | some rest' =>
      rw [belowData, belowData, List.append_cancel_left_eq] at same
      rw [same]

def joined : List Char × Option (List Char) → List Char
  | (mount, some rest) => mount ++ '/' :: rest
  | (mount, none) => mount

theorem joined_mountSplit (path : String) : joined (mountSplit path) = cleanChars path.toList := by
  unfold mountSplit
  cases split : Text.splitFirst '/' (cleanChars path.toList) with
  | none => rfl
  | some halves => exact (Text.splitFirst_eq_some.mp split).1.symm

theorem mountSplit_eq_of_clean {p q : String} (same : clean p = clean q) : mountSplit p = mountSplit q := by
  have chars : cleanChars p.toList = cleanChars q.toList := String.ofList_injective same
  rw [mountSplit, mountSplit, chars]

theorem slash_notMem_mount (path : String) : '/' ∉ (mountSplit path).1 := by
  unfold mountSplit
  cases split : Text.splitFirst '/' (cleanChars path.toList) with
  | none => exact Text.splitFirst_eq_none.mp split
  | some halves => exact (Text.splitFirst_eq_some.mp split).2

theorem toList_dataPath (path : String) :
    (dataPath path).toList = (mountSplit path).1 ++ '/' :: belowData (mountSplit path).2 := by
  have inside : "/data/".toList = '/' :: ['d', 'a', 't', 'a', '/'] := by decide
  have atEnd : "/data".toList = '/' :: ['d', 'a', 't', 'a'] := by decide
  unfold dataPath
  generalize mountSplit path = split
  obtain ⟨mount, rest⟩ := split
  cases rest with
  | none => simp only [atEnd, String.toList_ofList, belowData]
  | some rest => simp only [inside, String.toList_ofList, List.append_assoc, List.cons_append, belowData]

theorem splitFirst_dataPath (path : String) :
    Text.splitFirst '/' (dataPath path).toList = some ((mountSplit path).1, belowData (mountSplit path).2) :=
  Text.splitFirst_eq_some.mpr ⟨toList_dataPath path, slash_notMem_mount path⟩

theorem dataPath_eq_iff {p q : String} : dataPath p = dataPath q ↔ clean p = clean q := by
  constructor
  · intro same
    have halves := splitFirst_dataPath p
    rw [same, splitFirst_dataPath, Option.some.injEq, Prod.mk.injEq] at halves
    obtain ⟨mount, rest⟩ := halves
    have chars := congrArg joined (Prod.ext mount (belowData_injective rest)).symm
    rw [joined_mountSplit, joined_mountSplit] at chars
    rw [clean, clean, chars]
  · intro same
    rw [dataPath, dataPath, mountSplit_eq_of_clean same]

theorem mount_eq_of_dataPath {p q : String} (same : clean p = dataPath q) : mount p = mount q := by
  have chars : cleanChars p.toList = (dataPath q).toList := by rw [← same, clean, String.toList_ofList]
  have split : mountSplit p = ((mountSplit q).1, some (belowData (mountSplit q).2)) := by
    rw [mountSplit, chars, splitFirst_dataPath]
  rw [mount, mount, split]

theorem readPath_eq_iff {p q : String} {shape shape' : Shape} (uniform : mount p = mount q → shape = shape') :
    shape.readPath p = shape'.readPath q ↔ clean p = clean q := by
  constructor
  · intro same
    cases shape with
    | flat =>
      cases shape' with
      | flat =>
        simp only [Shape.readPath] at same
        exact same
      | enveloped =>
        simp only [Shape.readPath] at same
        cases uniform (mount_eq_of_dataPath same)
    | enveloped =>
      cases shape' with
      | flat =>
        simp only [Shape.readPath] at same
        cases uniform (mount_eq_of_dataPath same.symm).symm
      | enveloped =>
        simp only [Shape.readPath] at same
        exact dataPath_eq_iff.mp same
  · intro same
    have mounts : mount p = mount q := by rw [mount, mount, mountSplit_eq_of_clean same]
    rw [uniform mounts]
    cases shape' with
    | flat => simp only [Shape.readPath, same]
    | enveloped => simp only [Shape.readPath, dataPath_eq_iff.mpr same]

/-- A path that can be asked for: it is not empty, and no slash stands at either end. -/
structure Proper (path : String) : Prop where
  nonempty : path ≠ ""
  starts : path.toList.head? ≠ some '/'
  ends : path.toList.getLast? ≠ some '/'

theorem ends_of_cleanChars (cs : List Char) :
    (cleanChars cs).head? ≠ some '/' ∧ (cleanChars cs).getLast? ≠ some '/' := by
  obtain ⟨starts, ends⟩ := Text.strip_eq_self_iff.mp (Text.strip_strip (· == '/') (Text.trim cs))
  constructor
  · intro first
    have kept := starts '/' first
    cases kept
  · intro last
    have kept := ends '/' last
    cases kept

theorem clean_eq_empty_iff (path : String) : clean path = "" ↔ ∀ c ∈ Text.trim path.toList, c = '/' := by
  rw [clean, String.ofList_eq_empty_iff, cleanChars, Text.strip_eq_nil_iff]
  simp

theorem proper_clean_iff (path : String) : Proper (clean path) ↔ clean path ≠ "" := by
  obtain ⟨starts, ends⟩ := ends_of_cleanChars path.toList
  refine ⟨Proper.nonempty, fun nonempty => ⟨nonempty, ?_, ?_⟩⟩
  · rwa [clean, String.toList_ofList]
  · rwa [clean, String.toList_ofList]

theorem mount_ne_nil {path : String} (nonempty : clean path ≠ "") : (mountSplit path).1 ≠ [] := by
  obtain ⟨starts, -⟩ := ends_of_cleanChars path.toList
  have chars : cleanChars path.toList ≠ [] := fun none => nonempty (String.ofList_eq_empty_iff.mpr none)
  rw [← joined_mountSplit] at starts chars
  generalize mountSplit path = split at starts chars ⊢
  obtain ⟨mount, rest⟩ := split
  rintro rfl
  cases rest with
  | none => exact chars rfl
  | some rest => exact starts rfl

theorem proper_dataPath_iff (path : String) : Proper (dataPath path) ↔ clean path ≠ "" := by
  have chars := toList_dataPath path
  constructor
  · rintro ⟨-, starts, -⟩ empty
    have split : mountSplit path = ([], none) := by
      rw [mountSplit, String.ofList_eq_empty_iff.mp empty]
      rfl
    rw [chars, split] at starts
    exact starts rfl
  · intro nonempty
    have named := mount_ne_nil nonempty
    have free := slash_notMem_mount path
    obtain ⟨-, ends⟩ := ends_of_cleanChars path.toList
    rw [← joined_mountSplit] at ends
    generalize mountSplit path = split at chars named free ends
    obtain ⟨mount, rest⟩ := split
    refine ⟨fun empty => ?_, fun first => ?_, fun last => ?_⟩
    · rw [empty] at chars
      simp at chars
    · rw [chars, List.head?_append_of_ne_nil _ named] at first
      exact free (List.mem_of_head? first)
    · rw [chars] at last
      cases rest with
      | none => simp [belowData] at last
      | some rest =>
        cases rest with
        | nil => simp [joined] at ends
        | cons c rest =>
          refine ends ?_
          rw [joined, List.getLast?_append_of_ne_nil _ (by simp), List.getLast?_cons_cons]
          simpa [belowData] using last

theorem proper_readPath_iff (shape : Shape) (path : String) : Proper (shape.readPath path) ↔ clean path ≠ "" := by
  cases shape with
  | flat => exact proper_clean_iff path
  | enveloped => exact proper_dataPath_iff path

def Trimmed (path : String) : Prop := Text.trim path.toList = path.toList

/-- White space goes before the slashes do, so white space behind a slash is left. -/
theorem clean_clean_iff (path : String) : clean (clean path) = clean path ↔ Trimmed (clean path) := by
  have stripped := Text.strip_strip (· == '/') (Text.trim path.toList)
  unfold Trimmed clean
  rw [String.toList_ofList, cleanChars, cleanChars]
  generalize Text.strip (· == '/') (Text.trim path.toList) = cs at stripped ⊢
  constructor
  · intro same
    -- A text that is left of its trimmed self cannot have become shorter.
    have left := Text.strip_infix (· == '/') (Text.trim cs)
    rw [String.ofList_injective same] at left
    exact (Text.strip_infix Text.isBlank cs).sublist.eq_of_length_le left.length_le
  · intro trimmed
    rw [trimmed, stripped]

theorem cellOf_of_clean {path : String} (again : clean (clean path) = clean path) : cellOf path = mount path := by
  rw [cellOf, mount, mount, mountSplit_eq_of_clean again]

theorem cellOf_of_unblank {path : String} (unblank : ∀ c ∈ path.toList, Text.isBlank c = false) :
    cellOf path = mount path := by
  refine cellOf_of_clean ((clean_clean_iff path).mpr (Text.strip_of_neg fun c inside => unblank c ?_))
  rw [clean, String.toList_ofList] at inside
  exact Text.mem_of_mem_strip (Text.mem_of_mem_strip inside)

/-- The part of a path in front of its first slash. -/
def firstSegment (path : String) : String := .ofList (path.toList.takeWhile (· != '/'))

theorem firstSegment_of_split {path : String} {left right : List Char} (whole : path.toList = left ++ '/' :: right)
    (first : '/' ∉ left) : firstSegment path = .ofList left := by
  have before : ∀ c ∈ left, (c != '/') = true := by
    intro c member
    rw [bne_iff_ne]
    rintro rfl
    exact first member
  rw [firstSegment, whole, List.takeWhile_append_of_pos before, List.takeWhile_cons_of_neg (by simp), List.append_nil]

theorem firstSegment_of_free {path : String} (free : '/' ∉ path.toList) : firstSegment path = path := by
  have all : path.toList.takeWhile (· != '/') = path.toList := by
    refine List.takeWhile_eq_self_iff.mpr fun c member => ?_
    rw [bne_iff_ne]
    rintro rfl
    exact free member
  rw [firstSegment, all, String.ofList_toList]

theorem firstSegment_clean (path : String) : firstSegment (clean path) = mount path := by
  unfold mount mountSplit
  cases split : Text.splitFirst '/' (cleanChars path.toList) with
  | none =>
    have free := Text.splitFirst_eq_none.mp split
    exact firstSegment_of_free (by rwa [clean, String.toList_ofList])
  | some halves =>
    obtain ⟨whole, first⟩ := Text.splitFirst_eq_some.mp split
    exact firstSegment_of_split (by rw [clean, String.toList_ofList, whole]) first

theorem firstSegment_readPath (shape : Shape) (path : String) : firstSegment (shape.readPath path) = mount path := by
  cases shape with
  | flat => exact firstSegment_clean path
  | enveloped => exact firstSegment_of_split (toList_dataPath path) (slash_notMem_mount path)

end SecretTemplate.Engine
