import SecretTemplate.Proofs.Reference.Parts
import SecretTemplate.Proofs.Text.Trimming

namespace SecretTemplate.Reference

open Text (dropEnd trim)

def delimited (token : String) : String := "\x7b\x7b " ++ token ++ " \x7d\x7d"

/-- A token without the closing braces at its end. -/
def unclosed (token : String) : String := .ofList (dropEnd (· == '}') (trim token.toList))

def firstChar? (token : String) : Option Char := (trim token.toList).head?

def lastChar? (token : String) : Option Char := (trim token.toList).getLast?

theorem trim_trim (cs : List Char) : trim (trim cs) = trim cs := Text.strip_strip Text.isBlank cs

theorem unwrap_between {cs : List Char} (opens : cs.head? ≠ some '{') (closes : cs.getLast? ≠ some '}') :
    unwrap (['{', '{'] ++ cs ++ ['}', '}']) = trim cs := by
  have whole : trim (['{', '{'] ++ cs ++ ['}', '}']) = ['{', '{'] ++ cs ++ ['}', '}'] := by
    refine Text.strip_eq_self_iff.mpr ⟨fun c first => ?_, fun c last => ?_⟩
    · cases first
      decide
    · rw [List.getLast?_append] at last
      cases last
      decide
  have opened : (['{', '{'] ++ cs ++ ['}', '}']).dropWhile (· == '{') = cs ++ ['}', '}'] := by
    rw [List.append_assoc, List.dropWhile_append_of_pos (by simp), Text.dropWhile_eq_self_iff]
    intro c first
    rw [beq_eq_false_iff_ne]
    rintro rfl
    cases cs with
    | nil => cases first
    | cons d rest => exact opens first
  have closed : dropEnd (· == '}') (cs ++ ['}', '}']) = cs := by
    rw [Text.dropEnd_append_of_pos (by simp), Text.dropEnd_eq_self_iff]
    intro c last
    rw [beq_eq_false_iff_ne]
    rintro rfl
    exact closes last
  rw [unwrap, whole, opened, closed]

theorem unwrap_delimited (token : String) : unwrap (delimited token).toList = trim token.toList := by
  have spelled : (delimited token).toList = ['{', '{'] ++ ([' '] ++ token.toList ++ [' ']) ++ ['}', '}'] := by
    simp [delimited]
  have blank : ∀ c ∈ [' '], Text.isBlank c = true := List.forall_mem_singleton.mpr (by decide)
  -- The blanks keep the braces of the token apart from those of the delimiters.
  rw [spelled, unwrap_between (by simp) (by rw [List.getLast?_concat]; decide)]
  exact Text.strip_padded blank token.toList blank

theorem parse_delimited (token : String) : parse (delimited token) = parseBare (trim token.toList) := by
  rw [parse, unwrap_delimited]

theorem parse_of_unopened {token : String} (unopened : firstChar? token ≠ some '{') :
    parse token = parse (delimited (unclosed token)) := by
  have whole : (trim token.toList).dropWhile (· == '{') = trim token.toList := by
    refine Text.dropWhile_eq_self_iff.mpr fun c first => ?_
    rw [beq_eq_false_iff_ne]
    rintro rfl
    exact unopened first
  rw [parse_delimited, parse, unwrap, whole, unclosed, String.toList_ofList]

theorem splitFirst_append {sep : Char} {tail : List Char} (free : sep ∉ tail) (cs : List Char) :
    Text.splitFirst sep (cs ++ tail) = (Text.splitFirst sep cs).map fun (l, r) => (l, r ++ tail) := by
  cases split : Text.splitFirst sep cs with
  | none =>
    rw [Option.map_none, Text.splitFirst_eq_none, List.mem_append, not_or]
    exact ⟨Text.splitFirst_eq_none.mp split, free⟩
  | some halves =>
    obtain ⟨l, r⟩ := halves
    obtain ⟨rfl, first⟩ := Text.splitFirst_eq_some.mp split
    rw [Option.map_some, Text.splitFirst_eq_some]
    exact ⟨by simp, first⟩

theorem ofChars_injective {path key fallback path' key' fallback' : List Char}
    (same : ofChars path key fallback = ofChars path' key' fallback') :
    path = path' ∧ key = key' ∧ fallback = fallback' := by
  obtain ⟨paths, keys, fallbacks, -⟩ := Reference.mk.inj same
  exact ⟨String.ofList_injective paths, String.ofList_injective keys, String.ofList_injective fallbacks⟩

/-- More at the end of a token belongs to the fallback, or to the key where there is none. It shows, unless the token
    cannot be read with it. -/
theorem parseBare_append_iff {tail : List Char} (nonempty : tail ≠ []) (unseparated : '!' ∉ tail)
    (uncoloned : ':' ∉ tail) (cs : List Char) :
    parseBare (cs ++ tail) = parseBare cs ↔ ∀ r, parseBare (cs ++ tail) ≠ .ok r := by
  unfold parseBare
  rw [splitFirst_append unseparated]
  cases Text.splitFirst '!' cs with
  | none => simp
  | some halves =>
    obtain ⟨path, rest⟩ := halves
    dsimp only [Option.map_some]
    by_cases named : (trim path).isEmpty
    · simp [named]
    · unfold splitKey
      rw [splitFirst_append uncoloned, if_neg named, if_neg named]
      cases Text.splitFirst ':' rest with
      | none =>
        dsimp only [Option.map_none, Option.getD_none]
        rw [if_neg (by simp [nonempty])]
        refine iff_of_false (fun same => ?_) fun never => never _ rfl
        split at same
        · cases same
        · obtain ⟨-, keys, -⟩ := ofChars_injective (Except.ok.inj same)
          exact nonempty (List.append_right_eq_self.mp keys)
      | some parts =>
        obtain ⟨key, fallback⟩ := parts
        dsimp only [Option.map_some, Option.getD_some]
        by_cases keyed : key.isEmpty
        · simp [keyed]
        · rw [if_neg keyed, if_neg keyed]
          refine iff_of_false (fun same => ?_) fun never => never _ rfl
          obtain ⟨-, -, fallbacks⟩ := ofChars_injective (Except.ok.inj same)
          exact nonempty (List.append_right_eq_self.mp fallbacks)

theorem exists_tail {token : String} (closes : lastChar? token = some '}') :
    ∃ tail, trim token.toList = trim (unclosed token).toList ++ tail ∧ tail ≠ [] ∧ '!' ∉ tail ∧ ':' ∉ tail := by
  rw [unclosed, String.toList_ofList]
  have starts := Text.dropWhile_eq_self_iff.mp (Text.dropWhile_of_strip (trim_trim token.toList))
  have kept : dropEnd (· == '}') (trim token.toList) ≠ trim token.toList := by
    intro same
    have keeps := Text.dropEnd_eq_self_iff.mp same '}' closes
    cases keeps
  obtain ⟨braces, whole, run⟩ := Text.exists_dropped (· == '}') (trim token.toList)
  generalize dropEnd (· == '}') (trim token.toList) = left at kept whole ⊢
  rw [whole] at starts kept ⊢
  have trimmed : trim left = dropEnd Text.isBlank left := by
    have front : left.dropWhile Text.isBlank = left := by
      refine Text.dropWhile_eq_self_iff.mpr fun c first => starts c ?_
      rw [List.head?_append, Option.mem_def.mp first]
      rfl
    rw [trim, Text.strip, front]
  obtain ⟨blanks, split, blank⟩ := Text.exists_dropped Text.isBlank left
  have free (c : Char) (nonblank : Text.isBlank c = false) (other : c ≠ '}') : c ∉ blanks ++ braces := by
    intro member
    rcases List.mem_append.mp member with member | member
    · rw [blank c member] at nonblank
      cases nonblank
    · exact other (beq_iff_eq.mp (run c member))
  refine ⟨blanks ++ braces, ?_, ?_, free '!' (by decide) (by decide), free ':' (by decide) (by decide)⟩
  · rw [trimmed, ← List.append_assoc, ← split]
  · intro none
    obtain ⟨-, rfl⟩ := List.append_eq_nil_iff.mp none
    exact kept (List.append_nil left).symm

/-- Delimiters are optional for a token that does not begin with an opening brace: without them it is read as if the
    closing braces at its end were not there. That is the same reference, or none either way, exactly if it does not
    end in a closing brace or cannot be read within delimiters. -/
theorem parse_delimited_iff {token : String} (unopened : firstChar? token ≠ some '{') :
    parse token = parse (delimited (unclosed token)) ∧
    (parse (delimited token) = parse token ↔ lastChar? token ≠ some '}' ∨ ∀ r, parse (delimited token) ≠ .ok r) := by
  have bare := parse_of_unopened unopened
  refine ⟨bare, ?_⟩
  rw [bare, parse_delimited, parse_delimited]
  by_cases closes : lastChar? token = some '}'
  · obtain ⟨tail, whole, nonempty, unseparated, uncoloned⟩ := exists_tail closes
    rw [whole, parseBare_append_iff nonempty unseparated uncoloned]
    simp [closes]
  · have same : dropEnd (· == '}') (trim token.toList) = trim token.toList := by
      refine Text.dropEnd_eq_self_iff.mpr fun c last => ?_
      rw [beq_eq_false_iff_ne]
      rintro rfl
      exact closes last
    rw [unclosed, String.toList_ofList, same, trim_trim]
    exact iff_of_true rfl (.inl closes)

theorem parse_delimited_iff_colons :
    firstChar? " db!url:a:b " ≠ some '{' ∧
      parse (delimited " db!url:a:b ") = parse " db!url:a:b " ∧
      parse " db!url:a:b " = .ok ⟨"db", "url", "a:b", "a:b"⟩ := by
  have unopened : firstChar? " db!url:a:b " ≠ some '{' := by decide
  exact ⟨unopened, (parse_delimited_iff unopened).2.mpr (.inl (by decide)), by decide⟩

/-- A fallback that ends in a brace loses it without delimiters. -/
theorem parse_braced_fallback :
    firstChar? "a!k:{x}" ≠ some '{' ∧
      parse "a!k:{x}" = .ok ⟨"a", "k", "\x7bx", "\x7bx"⟩ ∧
      parse (delimited "a!k:{x}") = .ok ⟨"a", "k", "{x}", "{x}"⟩ := by
  decide

end SecretTemplate.Reference
