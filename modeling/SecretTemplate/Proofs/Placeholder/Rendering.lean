import SecretTemplate.Placeholder.Substitution
import SecretTemplate.Proofs.Batch.Reading
import SecretTemplate.Proofs.Placeholder.Extraction

namespace SecretTemplate

namespace Batch

def setValues (batch : Batch) (values : List (String × String)) : Batch :=
  values.foldl (fun b e => b.setValue e.1 e.2) batch

theorem known_setValue (batch : Batch) (placeholder value key : String) :
    (∃ r, (batch.setValue placeholder value).get? key = some r) ↔ ∃ r, batch.get? key = some r := by
  rw [setValue, Keyed.get?_modify]
  split
  · cases batch.get? key <;> simp
  · rfl

theorem known_setValues (batch : Batch) (values : List (String × String)) (key : String) :
    (∃ r, (batch.setValues values).get? key = some r) ↔ ∃ r, batch.get? key = some r := by
  induction values generalizing batch with
  | nil => rfl
  | cons e rest ih => exact (ih _).trans (known_setValue batch e.1 e.2 key)

end Batch

namespace Placeholder

open Text.Utf8

theorem atFront?_append_none (front : Bytes) {text : String} (positive : 0 < front.length)
    (free : atFront? front = none) (written : Written (encode text)) (rest : Bytes) :
    atFront? (front ++ (encode text ++ rest)) = none := by
  rw [atFront?_eq_none_iff]
  intro j span
  have later : IsSpan (front ++ (encode text ++ rest)) front.length (front.length + (encode text).length) :=
    isSpan_iff.mpr ⟨front, encode text, rest, rfl, rfl, rfl, written⟩
  have short : j ≤ front.length := span.disjoint later positive
  exact atFront?_eq_none_iff.mp free j ((isSpan_append_left _ short).mp span)

theorem pieces_append_placeholder (front : Bytes) {text : String} (written : Written (encode text)) (rest : Bytes) :
    pieces (front ++ (encode text ++ rest)) = pieces front ++ .placeholder text :: pieces rest := by
  induction front using pieces_induction with
  | nil => exact pieces_placeholder written rest
  | plain b bs free ih =>
    have longer := atFront?_append_none (b :: bs) (Nat.succ_pos _) free written rest
    rw [List.cons_append] at longer ⊢
    rw [pieces_plain longer, pieces_plain free, ih, List.cons_append]
  | placeholder other after written' ih =>
    rw [List.append_assoc, pieces_placeholder written', pieces_placeholder written', ih, List.cons_append]

def joined (first : Bytes) (parts : List (String × Bytes)) : Bytes :=
  first ++ parts.flatMap fun e => encode e.1 ++ e.2

theorem joined_cons (first : Bytes) (e : String × Bytes) (rest : List (String × Bytes)) :
    joined first (e :: rest) = first ++ (encode e.1 ++ joined e.2 rest) := by
  rw [joined, joined, List.flatMap_cons, List.append_assoc]

/-- The placeholders in `parts` are those that are found in `template`, and the rest is what stands between them. -/
def Cut (template first : Bytes) (parts : List (String × Bytes)) : Prop :=
  template = joined first parts ∧ find template = parts.map (·.1)

theorem exists_cut (template : Bytes) : ∃ first parts, Cut template first parts := by
  induction template using pieces_induction with
  | nil => exact ⟨[], [], rfl, rfl⟩
  | plain b bs free ih =>
    obtain ⟨first, parts, whole, found⟩ := ih
    refine ⟨b :: first, parts, ?_, ?_⟩
    · rw [whole]
      rfl
    · rw [find_plain free, found]
  | placeholder text rest written ih =>
    obtain ⟨first, parts, whole, found⟩ := ih
    refine ⟨[], (text, first) :: parts, ?_, ?_⟩
    · rw [whole, joined_cons, List.nil_append]
    · rw [find_placeholder written, found, List.map_cons]

theorem pieces_joined {parts : List (String × Bytes)} (written : ∀ e ∈ parts, Written (encode e.1)) (first : Bytes) :
    pieces (joined first parts) = pieces first ++ parts.flatMap fun e => .placeholder e.1 :: pieces e.2 := by
  induction parts generalizing first with
  | nil => simp [joined]
  | cons e rest ih =>
    have later := ih (fun other member => written other (List.mem_cons_of_mem _ member)) e.2
    rw [joined_cons, pieces_append_placeholder first (written e (List.mem_cons_self ..)), later, List.flatMap_cons,
      List.cons_append]

theorem find_joined {parts : List (String × Bytes)} (written : ∀ e ∈ parts, Written (encode e.1)) (first : Bytes) :
    find (joined first parts) = find first ++ parts.flatMap fun e => e.1 :: find e.2 := by
  rw [find, pieces_joined written, List.filterMap_append, List.filterMap_flatMap]
  rfl

theorem gaps_of_length {parts : List (String × Bytes)} {n : Nat}
    (h : n + (parts.flatMap fun e => e.1 :: find e.2).length = parts.length) :
    n = 0 ∧ ∀ e ∈ parts, find e.2 = [] := by
  induction parts generalizing n with
  | nil =>
    refine ⟨h, fun e member => ?_⟩
    cases member
  | cons e rest ih =>
    rw [List.flatMap_cons, List.length_append, List.length_cons, List.length_cons] at h
    obtain ⟨zero, later⟩ := ih (n := n + (find e.2).length) (by omega)
    refine ⟨by omega, fun other member => ?_⟩
    rcases List.mem_cons.mp member with rfl | member
    · exact List.length_eq_zero_iff.mp (by omega)
    · exact later other member

theorem Cut.written {template first : Bytes} {parts : List (String × Bytes)} (cut : Cut template first parts) :
    ∀ e ∈ parts, Written (encode e.1) := by
  intro e member
  apply written_of_mem_find
  rw [cut.2]
  exact List.mem_map.mpr ⟨e, member, rfl⟩

theorem Cut.gaps {template first : Bytes} {parts : List (String × Bytes)} (cut : Cut template first parts) :
    find first = [] ∧ ∀ e ∈ parts, find e.2 = [] := by
  obtain ⟨whole, found⟩ := cut
  have length := congrArg List.length found
  rw [whole, find_joined (Cut.written ⟨whole, found⟩), List.length_append, List.length_map] at length
  obtain ⟨zero, later⟩ := gaps_of_length length
  exact ⟨List.length_eq_zero_iff.mp zero, later⟩

/-- What takes the place of a placeholder: the value that the batch has for it, unless that is empty. -/
def replacement (batch : Batch) (placeholder : String) : String :=
  match batch.get? placeholder with
  | some r => if r.value = "" then placeholder else r.value
  | none => placeholder

theorem render_placeholder (batch : Batch) (placeholder : String) :
    (Piece.placeholder placeholder).render batch = encode (replacement batch placeholder) := by
  cases found : batch.get? placeholder with
  | none => simp [Piece.render, replacement, substitute?, found]
  | some r =>
    by_cases empty : r.value = ""
    · simp [Piece.render, replacement, substitute?, found, empty]
    · simp [Piece.render, replacement, substitute?, found, empty]

theorem substitute_of_find_nil {gap : Bytes} (clear : find gap = []) (batch : Batch) : substitute gap batch = gap := by
  induction gap using pieces_induction with
  | nil => rfl
  | plain b bs free ih =>
    rw [find_plain free] at clear
    rw [substitute, pieces_plain free, List.flatMap_cons]
    exact congrArg (b :: ·) (ih clear)
  | placeholder text rest written ih =>
    rw [find_placeholder written] at clear
    cases clear

/-- The joined bytes with other texts in the place of the placeholders. -/
def filledWith (text : String → String) (first : Bytes) (parts : List (String × Bytes)) : Bytes :=
  first ++ parts.flatMap fun e => encode (text e.1) ++ e.2

def filled (batch : Batch) (first : Bytes) (parts : List (String × Bytes)) : Bytes :=
  filledWith (replacement batch) first parts

@[simp]
theorem filled_nil (batch : Batch) (first : Bytes) : filled batch first [] = first := List.append_nil _

theorem filled_cons (batch : Batch) (first : Bytes) (e : String × Bytes) (rest : List (String × Bytes)) :
    filled batch first (e :: rest) = first ++ (encode (replacement batch e.1) ++ filled batch e.2 rest) := by
  simp only [filled, filledWith, List.flatMap_cons, List.append_assoc]

theorem Cut.substitute {template first : Bytes} {parts : List (String × Bytes)} (cut : Cut template first parts)
    (batch : Batch) : substitute template batch = filled batch first parts := by
  obtain ⟨before, between⟩ := cut.gaps
  have written := cut.written
  rw [Placeholder.substitute, cut.1, pieces_joined written, List.flatMap_append, List.flatMap_assoc]
  congr 1
  · exact substitute_of_find_nil before batch
  · apply List.flatMap_congr
    intro e member
    rw [List.flatMap_cons, render_placeholder]
    exact congrArg _ (substitute_of_find_nil (between e member) batch)

theorem Cut.substitute_of_forall {template first : Bytes} {parts : List (String × Bytes)} {batch : Batch}
    {text : String → String} (cut : Cut template first parts)
    (same : ∀ p ∈ find template, replacement batch p = text p) :
    Placeholder.substitute template batch = filledWith text first parts := by
  rw [cut.2] at same
  refine (cut.substitute batch).trans (congrArg (first ++ ·) (List.flatMap_congr fun e member => ?_))
  rw [same e.1 (List.mem_map_of_mem member)]

theorem unfilled_ascending (batch : Batch) : (unfilled batch).Pairwise (· < ·) :=
  List.pairwise_map.mpr (batch.ascending.filter _)

theorem mem_unfilled {batch : Batch} {placeholder : String} :
    placeholder ∈ unfilled batch ↔ ∃ r, batch.get? placeholder = some r ∧ r.value = "" := by
  simp [unfilled, Keyed.get?_eq_some_iff]

/-- Rendering replaces all placeholders of a template at once and copies everything else. With a batch of the
    template's own placeholders, whatever values were set, it reports those that were left in place. -/
theorem render_simultaneous {template first : Bytes} {parts : List (String × Bytes)} (cut : Cut template first parts)
    (batch : Batch) :
    (render template batch).value.text =
      first ++ parts.flatMap (fun e => encode (replacement batch e.1) ++ e.2) ∧
    ∀ read values, Batch.ofPlaceholders (find template) = .ok read → batch = read.setValues values →
      (∀ e ∈ parts, ∃ r, batch.get? e.1 = some r) ∧
      (render template batch).value.skipped.Pairwise (· < ·) ∧
      ∀ p, p ∈ (render template batch).value.skipped ↔
        p ∈ parts.map (·.1) ∧ ∀ r, batch.get? p = some r → r.value = "" := by
  refine ⟨cut.substitute batch, ?_⟩
  rintro read values made rfl
  have known (p : String) : (∃ r, (read.setValues values).get? p = some r) ↔ p ∈ parts.map (·.1) := by
    rw [Batch.known_setValues, ← Keyed.mem_keys_iff, Batch.mem_keys_ofPlaceholders made, cut.2]
  refine ⟨?_, unfilled_ascending _, ?_⟩
  · intro e member
    exact (known e.1).mpr (List.mem_map.mpr ⟨e, member, rfl⟩)
  · intro p
    refine mem_unfilled.trans ?_
    constructor
    · rintro ⟨r, found, empty⟩
      refine ⟨(known p).mp ⟨r, found⟩, fun r' found' => ?_⟩
      cases found.symm.trans found'
      exact empty
    · rintro ⟨member, empty⟩
      obtain ⟨r, found⟩ := (known p).mpr member
      exact ⟨r, found, empty r found⟩

theorem render_simultaneous_two_placeholders :
    ∃ read, Batch.ofPlaceholders (find (encode "a{{s!k}}b{{t!k}}")) = .ok read ∧
      let rendered := (render (encode "a{{s!k}}b{{t!k}}") (read.setValues [("{{s!k}}", "x")])).value
      rendered.text = encode "a" ++ [("{{s!k}}", encode "b"), ("{{t!k}}", [])].flatMap
        (fun e => encode (replacement (read.setValues [("{{s!k}}", "x")]) e.1) ++ e.2) ∧
      rendered.skipped.Pairwise (· < ·) := by
  have cut : Cut (encode "a{{s!k}}b{{t!k}}") (encode "a") [("{{s!k}}", encode "b"), ("{{t!k}}", [])] :=
    ⟨by decide +kernel, by decide +kernel⟩
  obtain ⟨read, made⟩ : ∃ read, Batch.ofPlaceholders (find (encode "a{{s!k}}b{{t!k}}")) = .ok read := ⟨_, rfl⟩
  obtain ⟨text, own⟩ := render_simultaneous cut (read.setValues [("{{s!k}}", "x")])
  obtain ⟨-, ascending, -⟩ := own read [("{{s!k}}", "x")] made rfl
  exact ⟨read, made, text, ascending⟩

end Placeholder

end SecretTemplate
