import SecretTemplate.Proofs.Text.Trimming
import SecretTemplate.Proofs.Url.Segments

namespace SecretTemplate

namespace Text

theorem splitAll_append (sep : Char) (left right : List Char) :
    splitAll sep (left ++ sep :: right) = splitAll sep left ++ splitAll sep right := by
  induction left with
  | nil => simp [splitAll]
  | cons c left ih =>
    rw [List.cons_append, splitAll, splitAll, ih]
    split
    · rfl
    · cases parts : splitAll sep left with
      | nil => exact absurd parts (splitAll_ne_nil sep left)
      | cons part parts => rfl

theorem splitAll_replicate (sep : Char) (n : Nat) :
    splitAll sep (List.replicate n sep) = List.replicate (n + 1) [] := by
  induction n with
  | zero => rfl
  | succ n ih =>
    rw [List.replicate_succ, splitAll, if_pos rfl, ih]
    rfl

theorem mem_splitAll (sep : Char) {c : Char} {cs : List Char} (member : c ∈ cs) :
    c = sep ∨ ∃ part ∈ splitAll sep cs, c ∈ part := by
  have kept :
      ((splitAll sep cs).flatMap fun part => sep :: part.flatMap fun d => [d]) = sep :: cs.flatMap fun d => [d] :=
    flatMap_splitAll rfl cs
  simp only [List.flatMap_singleton'] at kept
  have written : c ∈ (splitAll sep cs).flatMap fun part => sep :: part := by
    rw [kept]
    exact List.mem_cons_of_mem _ member
  obtain ⟨part, inside, here⟩ := List.mem_flatMap.mp written
  rcases List.mem_cons.mp here with separates | here
  · exact .inl separates
  · exact .inr ⟨part, inside, here⟩

end Text

namespace Url

theorem encode_of_not_escapes {part : Part} {cs : List Char} (plain : ∀ c ∈ cs, part.escapes c = false) :
    encode part cs = cs := by
  induction cs with
  | nil => rfl
  | cons c cs ih =>
    rw [encode_cons, encodeChar_of_not_escapes (plain c (List.mem_cons_self ..)),
      ih fun d member => plain d (List.mem_cons_of_mem _ member)]
    rfl

namespace Path

open Text (splitAll splitAll_append splitAll_ne_nil splitAll_replicate flatMap_splitAll)

def pass (names : List String) (part : List Char) : List String :=
  if isDoubleDot part then shorten names
  else if isSingleDot part then names
  else names ++ [.ofList (encode .path part)]

theorem append_cons_of_ne_nil (names : List String) (part : List Char) {parts : List (List Char)} (more : parts ≠ []) :
    append false names (part :: parts) = append false (pass names part) parts := by
  have unended : (if parts.isEmpty then [""] else []) = ([] : List String) := by simp [more]
  rw [append, pass]
  simp only [unended, List.append_nil, Bool.false_and]
  split
  · rfl
  · split <;> rfl

theorem append_append (names : List String) (parts : List (List Char)) {later : List (List Char)} (more : later ≠ []) :
    append false names (parts ++ later) = append false (parts.foldl pass names) later := by
  induction parts generalizing names with
  | nil => rfl
  | cons part parts ih =>
    rw [List.cons_append, append_cons_of_ne_nil names part (by simp [more]), ih]
    rfl

theorem append_last (names : List String) (part : List Char) :
    append false names [part] = pass names part ∨ append false names [part] = pass names part ++ [""] := by
  unfold append pass
  simp only [append]
  split
  · exact .inr rfl
  · split
    · exact .inr rfl
    · exact .inl rfl

/-- At the end of a path there is at most an empty segment beside what is passed on the way. -/
theorem append_eq_foldl (names : List String) {parts : List (List Char)} (some : parts ≠ []) :
    ∃ n, append false names parts = parts.foldl pass names ++ List.replicate n "" := by
  obtain ⟨front, last, rfl⟩ := List.eq_nil_or_concat parts |>.resolve_left some
  rw [List.concat_eq_append, append_append names front (by simp), List.foldl_append]
  rcases append_last (front.foldl pass names) last with same | ended
  · exact ⟨0, by simpa using same⟩
  · exact ⟨1, ended⟩

theorem append_empty (names : List String) (n : Nat) :
    append false names (List.replicate n []) = names ++ List.replicate n "" := by
  have plain : ∀ part ∈ List.replicate n ([] : List Char), isDoubleDot part = false ∧ isSingleDot part = false := by
    intro part member
    rw [List.eq_of_mem_replicate member]
    decide
  rw [append_of_plain plain, List.map_replicate]
  rfl

def passed (cs : List Char) : List String :=
  match slashes true cs with
  | [] => []
  | _ :: rest => (splitAll '/' rest).foldl pass []

theorem slashes_append (left right : List Char) :
    slashes true (left ++ right) = slashes true left ++ slashes true right :=
  List.map_append

theorem slashes_cons {c : Char} (slash : c = '/' ∨ c = '\\') (cs : List Char) :
    slashes true (c :: cs) = '/' :: slashes true cs := by
  rcases slash with rfl | rfl <;> rfl

variable {cs more : List Char}

theorem read_append (starts : ∀ c ∈ cs.head?, c = '/' ∨ c = '\\') (absent : '\\' ∉ more) :
    read true false [] (cs ++ '/' :: more) = append false (passed cs) (splitAll '/' more) := by
  cases cs with
  | nil =>
    rw [List.nil_append, read, slashes_cons (.inl rfl), slashes_of_notMem absent]
    rfl
  | cons c cs =>
    rw [List.cons_append, read, passed, slashes_cons (starts c rfl), slashes_cons (starts c rfl), slashes_append,
      slashes_cons (.inl rfl), slashes_of_notMem absent]
    show append false [] (splitAll '/' (slashes true cs ++ '/' :: more)) = _
    rw [splitAll_append, append_append _ _ (splitAll_ne_nil '/' more)]

theorem read_of_starts (starts : ∀ c ∈ cs.head?, c = '/' ∨ c = '\\') :
    ∃ n, read true false [] cs = passed cs ++ List.replicate n "" := by
  cases cs with
  | nil => exact ⟨1, rfl⟩
  | cons c cs =>
    rw [read, passed, slashes_cons (starts c rfl)]
    exact append_eq_foldl [] (splitAll_ne_nil '/' _)

theorem read_slashes (starts : ∀ c ∈ cs.head?, c = '/' ∨ c = '\\') (k : Nat) :
    ∃ n, read true false [] (cs ++ List.replicate k '/') = passed cs ++ List.replicate n "" := by
  cases k with
  | zero =>
    rw [List.replicate_zero, List.append_nil]
    exact read_of_starts starts
  | succ k =>
    refine ⟨k + 1, ?_⟩
    have absent : '\\' ∉ List.replicate k '/' := fun member => by cases List.eq_of_mem_replicate member
    rw [List.replicate_succ, read_append starts absent, splitAll_replicate, append_empty]

theorem toList_text_append (names later : List String) :
    (text true (.segments (names ++ later))).toList =
      (text true (.segments names)).toList ++ later.flatMap fun name => '/' :: name.toList := by
  rw [toList_text, toList_text, List.flatMap_append]

theorem toList_text_replicate (names : List String) (n : Nat) :
    (text true (.segments (names ++ List.replicate n ""))).toList =
      (text true (.segments names)).toList ++ List.replicate n '/' := by
  rw [toList_text_append, List.flatMap_replicate, ← List.flatten_replicate_singleton (n := n) (a := '/')]
  rfl

theorem dropEnd_text_slashes (starts : ∀ c ∈ cs.head?, c = '/' ∨ c = '\\') (n : Nat) :
    Text.dropEnd (· == '/') (text true (.segments (read true false [] (cs ++ List.replicate n '/')))).toList =
      Text.dropEnd (· == '/') (text true (.segments (passed cs))).toList := by
  obtain ⟨k, ended⟩ := read_slashes starts n
  rw [ended, toList_text_replicate]
  apply Text.dropEnd_append_of_pos
  intro c member
  rw [List.eq_of_mem_replicate member]
  rfl

/-- What is written in a URL as it is read. -/
structure Literal (cs : List Char) : Prop where
  unescaped : ∀ c ∈ cs, Part.path.escapes c = false
  slashed : '\\' ∉ cs
  undotted : ∀ part ∈ splitAll '/' cs, isDoubleDot part = false ∧ isSingleDot part = false

theorem Literal.text_read (literal : Literal more) (starts : ∀ c ∈ cs.head?, c = '/' ∨ c = '\\') :
    (text true (.segments (read true false [] (cs ++ '/' :: more)))).toList =
      (text true (.segments (passed cs))).toList ++ '/' :: more := by
  have kept : encodeChar .path '/' = ['/'] := by decide
  have written := flatMap_splitAll kept more
  rw [read_append starts literal.slashed, append_of_plain literal.undotted, toList_text_append, List.flatMap_map]
  simp only [String.toList_ofList]
  apply congrArg ((text true (.segments (passed cs))).toList ++ ·)
  exact written.trans (congrArg ('/' :: ·) (encode_of_not_escapes literal.unescaped))

end Path

end Url

end SecretTemplate
