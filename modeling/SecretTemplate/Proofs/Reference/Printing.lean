import SecretTemplate.Proofs.Reference.Delimiters

namespace SecretTemplate.Reference

open Text (trim isBlank)

def print (path key fallback : String) : String := delimited (path ++ "!" ++ key ++ ":" ++ fallback)

/-- The parts of which a reference can be made up. -/
structure Printable (path key fallback : String) : Prop where
  named : path ≠ ""
  unseparated : '!' ∉ path.toList
  starts : ∀ c ∈ path.toList.head?, isBlank c = false
  keyed : key ≠ ""
  uncoloned : ':' ∉ key.toList
  ends : ∀ c ∈ fallback.toList.getLast?, isBlank c = false

variable {path key fallback : String}

def written (path key fallback : String) : List Char := path.toList ++ '!' :: (key.toList ++ ':' :: fallback.toList)

theorem parse_print_eq (path key fallback : String) :
    parse (print path key fallback) = parseBare (trim (written path key fallback)) := by
  rw [print, parse_delimited]
  simp [written]

theorem Printable.path_ne_nil (printable : Printable path key fallback) : path.toList ≠ [] := fun empty =>
  printable.named (String.toList_eq_nil_iff.mp empty)

theorem Printable.trim_written (printable : Printable path key fallback) :
    trim (written path key fallback) = written path key fallback := by
  refine Text.strip_eq_self_iff.mpr ⟨fun c first => ?_, fun c last => ?_⟩
  · rw [written, List.head?_append_of_ne_nil _ printable.path_ne_nil] at first
    exact printable.starts c first
  · cases shape : fallback.toList with
    | nil =>
      have colon : written path key fallback = path.toList ++ '!' :: key.toList ++ [':'] := by simp [written, shape]
      rw [colon, List.getLast?_concat] at last
      cases last
      decide
    | cons d rest =>
      have tail : written path key fallback = path.toList ++ '!' :: key.toList ++ [':'] ++ fallback.toList := by
        simp [written]
      rw [tail, List.getLast?_append_of_ne_nil _ (by simp [shape])] at last
      exact printable.ends c last

theorem Printable.trim_path (printable : Printable path key fallback) : trim path.toList ≠ [] := by
  intro blank
  obtain ⟨c, rest, shape⟩ := List.exists_cons_of_ne_nil printable.path_ne_nil
  have kept := printable.starts c (by rw [shape]; rfl)
  rw [Text.strip_eq_nil_iff.mp blank c (by simp [shape])] at kept
  cases kept

theorem Printable.parsed (printable : Printable path key fallback) :
    parse (print path key fallback) = .ok ⟨path, key, fallback, fallback⟩ := by
  have split : splitKey (key.toList ++ ':' :: fallback.toList) = (key.toList, fallback.toList) := by
    rw [splitKey, Text.splitFirst_eq_some.mpr ⟨rfl, printable.uncoloned⟩, Option.getD_some]
  rw [parse_print_eq, printable.trim_written]
  refine parseBare_eq_ok_iff.mpr ⟨path.toList, _, rfl, printable.unseparated, printable.trim_path, ?_, ?_⟩
  · rw [split]
    simpa using printable.keyed
  · rw [split]
    simp [ofChars]

theorem printable_of_parse {s : String} {r : Reference} (parsed : parse s = .ok r) :
    Printable r.storePath r.fieldKey r.fallback := by
  -- The white space is gone before the token is cut, so none of it gets to the front of the path or to the end of the
  -- fallback.
  have trimmed : trim (unwrap s.toList) = unwrap s.toList := trim_trim _
  obtain ⟨starts, ends⟩ := Text.strip_eq_self_iff.mp trimmed
  obtain ⟨unseparated, keyed, uncoloned, -, rest, whole, parts⟩ := spells_of_parseBare parsed
  refine ⟨storePath_ne_empty parsed, unseparated, fun c first => starts c ?_, keyed, uncoloned, fun c last => ends c ?_⟩
  · rw [whole, List.head?_append, Option.mem_def.mp first]
    rfl
  · rcases parts with ⟨-, rfl⟩ | ⟨-, -, empty⟩
    · have nonempty : r.fallback.toList ≠ [] := List.ne_nil_of_mem (List.mem_of_getLast? last)
      have tail : unwrap s.toList = r.storePath.toList ++ '!' :: r.fieldKey.toList ++ [':'] ++ r.fallback.toList := by
        simp [whole]
      rw [tail, List.getLast?_append_of_ne_nil _ nonempty]
      exact last
    · rw [empty] at last
      cases last

/-- A reference is read back from what is written of it, and every reference that is read can be written. -/
theorem parse_print :
    (∀ path key fallback, Printable path key fallback →
      parse (print path key fallback) = .ok ⟨path, key, fallback, fallback⟩) ∧
    ∀ s r, parse s = .ok r → Printable r.storePath r.fieldKey r.fallback ∧
      parse (print r.storePath r.fieldKey r.fallback) = .ok r := by
  refine ⟨fun path key fallback printable => printable.parsed, fun s r parsed => ?_⟩
  have printable := printable_of_parse parsed
  have value : r.value = r.fallback := (spells_of_parseBare parsed).value
  obtain ⟨path, key, fallback, current⟩ := r
  cases value
  exact ⟨printable, printable.parsed⟩

theorem parse_print_braces :
    Printable "{a} b\t" "k!\x7b " ": \x7d\x7d" ∧
      parse (print "{a} b\t" "k!\x7b " ": \x7d\x7d") = .ok ⟨"{a} b\t", "k!\x7b ", ": \x7d\x7d", ": \x7d\x7d"⟩ ∧
      parse "\x7b a!k:v\x7d\x7d " = .ok ⟨"a", "k", "v", "v"⟩ ∧
      parse (print "a" "k" "v") = .ok ⟨"a", "k", "v", "v"⟩ := by
  have printable : Printable "{a} b\t" "k!\x7b " ": \x7d\x7d" := by
    refine ⟨by decide, by decide, fun c first => ?_, by decide, by decide, fun c last => ?_⟩
    · cases first
      decide
    · cases last
      decide
  have parsed : parse "\x7b a!k:v\x7d\x7d " = .ok ⟨"a", "k", "v", "v"⟩ := by decide
  exact ⟨printable, parse_print.1 _ _ _ printable, parsed, (parse_print.2 _ _ parsed).2⟩

end SecretTemplate.Reference
