import SecretTemplate.Placeholder.Scan
import SecretTemplate.Proofs.Text.Scalars

namespace SecretTemplate.Placeholder

open Text (isBlank)
open Text.Utf8

/-- The bytes of a placeholder: two braces, white space, scalars other than white space and braces, white
    space, two braces. -/
def Written (span : Bytes) : Prop :=
  ∃ lead token trail : List Char,
    (∀ c ∈ lead, isBlank c = true) ∧ (∀ c ∈ token, isBlank c = false ∧ c ≠ '{' ∧ c ≠ '}') ∧
      (∀ c ∈ trail, isBlank c = true) ∧
      span = [0x7B, 0x7B] ++ (lead ++ token ++ trail).flatMap encodeChar ++ [0x7D, 0x7D]

/-- The bytes of `text` from `i` up to `j` are a placeholder. -/
def IsSpan (text : Bytes) (i j : Nat) : Prop := j ≤ text.length ∧ Written (text.extract i j)

theorem isTokenChar_iff {c : Char} : isTokenChar c = true ↔ isBlank c = false ∧ c ≠ '{' ∧ c ≠ '}' := by
  simp [isTokenChar, and_assoc]

theorem not_blank_of_brace {c : Char} (h : c = '{' ∨ c = '}') : isBlank c = false := by
  rcases h with rfl | rfl
  · decide
  · decide

theorem ne_brace_of_blank {c : Char} (white : isBlank c = true) : c ≠ '{' ∧ c ≠ '}' := by
  constructor
  · rintro rfl
    rw [not_blank_of_brace (.inl rfl)] at white
    cases white
  · rintro rfl
    rw [not_blank_of_brace (.inr rfl)] at white
    cases white

theorem ne_brace_of_body {lead token trail : List Char} (leading : ∀ c ∈ lead, isBlank c = true)
    (inner : ∀ c ∈ token, isBlank c = false ∧ c ≠ '{' ∧ c ≠ '}') (trailing : ∀ c ∈ trail, isBlank c = true) :
    ∀ c ∈ lead ++ token ++ trail, c ≠ '{' ∧ c ≠ '}' := by
  intro c member
  rcases List.mem_append.mp member with member | member
  · rcases List.mem_append.mp member with member | member
    · exact ne_brace_of_blank (leading c member)
    · exact (inner c member).2
  · exact ne_brace_of_blank (trailing c member)

theorem brace_notMem_flatMap {cs : List Char} (h : ∀ c ∈ cs, c ≠ '{' ∧ c ≠ '}') :
    0x7B ∉ cs.flatMap encodeChar ∧ 0x7D ∉ cs.flatMap encodeChar := by
  constructor
  · intro member
    obtain ⟨c, listed, byte⟩ := List.mem_flatMap.mp member
    have same : c.toNat = 0x7B := toNat_eq_of_mem_encodeChar byte (by decide)
    exact (h c listed).1 (Char.toNat_inj.mp same)
  · intro member
    obtain ⟨c, listed, byte⟩ := List.mem_flatMap.mp member
    have same : c.toNat = 0x7D := toNat_eq_of_mem_encodeChar byte (by decide)
    exact (h c listed).2 (Char.toNat_inj.mp same)

theorem Written.braced {span : Bytes} (h : Written span) :
    ∃ body, span = 0x7B :: 0x7B :: (body ++ [0x7D, 0x7D]) ∧ 0x7B ∉ body ∧ 0x7D ∉ body := by
  obtain ⟨lead, token, trail, leading, inner, trailing, rfl⟩ := h
  obtain ⟨noOpen, noClose⟩ := brace_notMem_flatMap (ne_brace_of_body leading inner trailing)
  exact ⟨_, rfl, noOpen, noClose⟩

theorem isSpan_iff {text : Bytes} {i j : Nat} :
    IsSpan text i j ↔ ∃ before span after, text = before ++ (span ++ after) ∧ before.length = i ∧
      i + span.length = j ∧ Written span := by
  constructor
  · rintro ⟨bound, written⟩
    obtain ⟨body, whole, -, -⟩ := written.braced
    have size := congrArg List.length whole
    simp only [List.extract_eq_take_drop, List.length_take, List.length_drop, List.length_cons, List.length_append]
      at size
    refine ⟨text.take i, text.extract i j, text.drop j, ?_, ?_, ?_, written⟩
    · have rest : text.drop j = (text.drop i).drop (j - i) := by
        rw [List.drop_drop]
        congr 1
        omega
      rw [List.extract_eq_take_drop, rest, List.take_append_drop, List.take_append_drop]
    · rw [List.length_take]
      omega
    · simp only [List.extract_eq_take_drop, List.length_take, List.length_drop]
      omega
  · rintro ⟨before, span, after, rfl, rfl, rfl, written⟩
    constructor
    · simp only [List.length_append]
      omega
    · rw [List.extract_eq_take_drop, List.drop_left, Nat.add_sub_cancel_left, List.take_left]
      exact written

theorem IsSpan.braced {text : Bytes} {i j : Nat} (h : IsSpan text i j) :
    ∃ before body after, text = before ++ 0x7B :: 0x7B :: (body ++ 0x7D :: 0x7D :: after) ∧
      before.length = i ∧ j = i + body.length + 4 ∧ 0x7B ∉ body ∧ 0x7D ∉ body := by
  obtain ⟨before, span, after, rfl, start, finish, written⟩ := isSpan_iff.mp h
  obtain ⟨body, rfl, noOpen, noClose⟩ := written.braced
  refine ⟨before, body, after, by simp, start, ?_, noOpen, noClose⟩
  simp only [List.length_cons, List.length_append, List.length_nil] at finish
  omega

theorem IsSpan.size {text : Bytes} {i j : Nat} (h : IsSpan text i j) : i + 4 ≤ j ∧ j ≤ text.length := by
  obtain ⟨before, body, after, -, -, finish, -⟩ := h.braced
  exact ⟨by omega, h.1⟩

theorem IsSpan.opens {text : Bytes} {i j : Nat} (h : IsSpan text i j) :
    text[i]? = some 0x7B ∧ text[i + 1]? = some 0x7B := by
  obtain ⟨before, body, after, rfl, rfl, -⟩ := h.braced
  constructor
  · simp
  · rw [List.getElem?_append_right (by omega), Nat.add_sub_cancel_left]
    rfl

theorem IsSpan.closes {text : Bytes} {i j : Nat} (h : IsSpan text i j) :
    text[j - 2]? = some 0x7D ∧ text[j - 1]? = some 0x7D := by
  obtain ⟨before, body, after, rfl, rfl, rfl, -⟩ := h.braced
  constructor
  · have place : before.length + body.length + 4 - 2 = before.length + (body.length + 2) := by omega
    rw [place, List.getElem?_append_right (by omega), Nat.add_sub_cancel_left]
    simp
  · have place : before.length + body.length + 4 - 1 = before.length + (body.length + 1 + 2) := by omega
    rw [place, List.getElem?_append_right (by omega), Nat.add_sub_cancel_left, List.getElem?_cons_succ,
      List.getElem?_cons_succ, List.getElem?_append_right (by omega), Nat.add_sub_cancel_left]
    rfl

theorem IsSpan.inside {text : Bytes} {i j k : Nat} (h : IsSpan text i j) (after : i + 2 ≤ k) (within : k + 2 < j) :
    text[k]? ≠ some 0x7B ∧ text[k]? ≠ some 0x7D := by
  obtain ⟨before, body, rest, rfl, rfl, rfl, noOpen, noClose⟩ := h.braced
  obtain ⟨n, rfl⟩ := Nat.exists_eq_add_of_le after
  have bound : n < body.length := by omega
  have place : (before ++ 0x7B :: 0x7B :: (body ++ 0x7D :: 0x7D :: rest))[before.length + 2 + n]? = body[n]? := by
    rw [Nat.add_assoc, List.getElem?_append_right (by omega), Nat.add_sub_cancel_left, Nat.add_comm 2,
      List.getElem?_cons_succ, List.getElem?_cons_succ, List.getElem?_append_left bound]
  rw [place]
  exact ⟨fun there => noOpen (List.mem_of_getElem? there), fun there => noClose (List.mem_of_getElem? there)⟩

theorem IsSpan.disjoint {text : Bytes} {i j i' j' : Nat} (first : IsSpan text i j) (second : IsSpan text i' j')
    (less : i < i') : j ≤ i' := by
  by_contra overlap
  have size := first.size
  obtain ⟨here, next⟩ := second.opens
  obtain ⟨close, last⟩ := first.closes
  -- The second opening brace is past the braces of the first placeholder, where no brace opens.
  have places : i' + 1 + 2 < j ∨ i' + 1 = j - 2 ∨ i' + 1 = j - 1 ∨ i' = j - 1 := by omega
  rcases places with within | same | same | same
  · exact (first.inside (by omega) within).1 next
  · rw [same, close] at next
    cases next
  · rw [same, last] at next
    cases next
  · rw [same, last] at here
    cases here

theorem IsSpan.end_le {text : Bytes} {i j j' : Nat} (first : IsSpan text i j) (second : IsSpan text i j') :
    j ≤ j' := by
  by_contra longer
  have size := second.size
  exact (first.inside (by omega) (by omega)).2 second.closes.1

theorem IsSpan.end_unique {text : Bytes} {i j j' : Nat} (first : IsSpan text i j) (second : IsSpan text i j') :
    j = j' := Nat.le_antisymm (first.end_le second) (second.end_le first)

theorem extract_append_right (front rest : Bytes) (i j : Nat) :
    (front ++ rest).extract (front.length + i) (front.length + j) = rest.extract i j := by
  rw [List.extract_eq_take_drop, List.extract_eq_take_drop, List.drop_append, List.drop_of_length_le (by omega),
    List.nil_append, Nat.add_sub_cancel_left, Nat.add_sub_add_left]

theorem isSpan_append_right (front rest : Bytes) (i j : Nat) :
    IsSpan (front ++ rest) (front.length + i) (front.length + j) ↔ IsSpan rest i j := by
  have bound : front.length + j ≤ (front ++ rest).length ↔ j ≤ rest.length := by
    rw [List.length_append]
    omega
  rw [IsSpan, IsSpan, bound, extract_append_right]

theorem isSpan_append_left {front : Bytes} (rest : Bytes) {i j : Nat} (bound : j ≤ front.length) :
    IsSpan (front ++ rest) i j ↔ IsSpan front i j := by
  have longer : j ≤ (front ++ rest).length := by
    rw [List.length_append]
    omega
  have same : (front ++ rest).extract i j = front.extract i j := by
    rw [List.extract_eq_take_drop, List.extract_eq_take_drop, List.drop_append, List.take_append]
    have none : j - i - (front.drop i).length = 0 := by
      rw [List.length_drop]
      omega
    rw [none, List.take_zero, List.append_nil]
  simp only [IsSpan, bound, longer, same]

theorem encode_ofList (cs : List Char) : encode (String.ofList cs) = cs.flatMap encodeChar := by
  rw [encode, String.toList_ofList]

theorem encode_injective {s t : String} (h : encode s = encode t) : s = t :=
  Option.some.inj ((decode?_eq_some_iff.mpr rfl).symm.trans (decode?_eq_some_iff.mpr h))

theorem encode_braced (cs : List Char) :
    encode (String.ofList (['{', '{'] ++ cs ++ ['}', '}'])) =
      [0x7B, 0x7B] ++ cs.flatMap encodeChar ++ [0x7D, 0x7D] := by
  rw [encode_ofList, List.flatMap_append, List.flatMap_append]
  rfl

theorem takeScalars_append (p : Char → Bool) (cs : List Char) {rest : Bytes} (all : ∀ c ∈ cs, p c = true)
    (stops : ∀ c, head? rest = some c → p c = false) : takeScalars p 0 (cs.flatMap encodeChar ++ rest) = (cs, rest) :=
  (takeScalars_eq_iff p).mpr ⟨rfl, all, stops⟩

theorem stops_at_brace (rest : Bytes) (c : Char) (h : head? (0x7D :: rest) = some c) :
    isBlank c = false ∧ isTokenChar c = false := by
  have first : head? (0x7D :: rest) = some '}' := head?_encodeChar_append '}' rest
  rw [first] at h
  cases h
  exact ⟨by decide, by decide⟩

theorem stops_at_blanks {trail : List Char} (trailing : ∀ c ∈ trail, isBlank c = true) (rest : Bytes) (c : Char)
    (h : head? (trail.flatMap encodeChar ++ 0x7D :: rest) = some c) : isTokenChar c = false := by
  cases trail with
  | nil => exact (stops_at_brace rest c h).2
  | cons w ws =>
    rw [List.flatMap_cons, List.append_assoc, head?_encodeChar_append] at h
    cases h
    rw [Bool.eq_false_iff]
    intro token
    have blank := trailing c (List.mem_cons_self ..)
    rw [(isTokenChar_iff.mp token).1] at blank
    cases blank

theorem atFront?_of_written {text : String} (h : Written (encode text)) (rest : Bytes) :
    atFront? (encode text ++ rest) = some text := by
  obtain ⟨lead, token, trail, leading, inner, trailing, bytes⟩ := h
  have same : text = String.ofList (['{', '{'] ++ (lead ++ token ++ trail) ++ ['}', '}']) :=
    encode_injective (bytes.trans (encode_braced _).symm)
  have cut : encode text ++ rest = 0x7B :: 0x7B ::
      (lead.flatMap encodeChar ++
        (token.flatMap encodeChar ++ (trail.flatMap encodeChar ++ 0x7D :: 0x7D :: rest))) := by
    simp [bytes]
  have third :
      takeScalars isBlank 0 (trail.flatMap encodeChar ++ 0x7D :: 0x7D :: rest) = (trail, 0x7D :: 0x7D :: rest) :=
    takeScalars_append _ trail trailing fun c first => (stops_at_brace _ c first).1
  rw [cut, same]
  cases token with
  | nil =>
    -- Without a token all white space is taken at once.
    have first : takeScalars isBlank 0 (lead.flatMap encodeChar ++ (trail.flatMap encodeChar ++ 0x7D :: 0x7D :: rest)) =
        (lead ++ trail, 0x7D :: 0x7D :: rest) := by
      rw [← List.append_assoc, ← List.flatMap_append]
      refine takeScalars_append _ (lead ++ trail) ?_ fun c first => (stops_at_brace _ c first).1
      intro c member
      rcases List.mem_append.mp member with member | member
      · exact leading c member
      · exact trailing c member
    have second : takeScalars isTokenChar 0 (0x7D :: 0x7D :: rest) = ([], 0x7D :: 0x7D :: rest) :=
      takeScalars_append _ [] (by simp) fun c first => (stops_at_brace _ c first).2
    have last : takeScalars isBlank 0 (0x7D :: 0x7D :: rest) = ([], 0x7D :: 0x7D :: rest) :=
      takeScalars_append _ [] (by simp) fun c first => (stops_at_brace _ c first).1
    simp [atFront?, first, second, last]
  | cons t ts =>
    have first : takeScalars isBlank 0 (lead.flatMap encodeChar ++ ((t :: ts).flatMap encodeChar ++
        (trail.flatMap encodeChar ++ 0x7D :: 0x7D :: rest))) =
        (lead, (t :: ts).flatMap encodeChar ++ (trail.flatMap encodeChar ++ 0x7D :: 0x7D :: rest)) := by
      refine takeScalars_append _ lead leading ?_
      intro c head
      rw [List.flatMap_cons, List.append_assoc, head?_encodeChar_append] at head
      cases head
      exact (inner t (List.mem_cons_self ..)).1
    have second : takeScalars isTokenChar 0 ((t :: ts).flatMap encodeChar ++
        (trail.flatMap encodeChar ++ 0x7D :: 0x7D :: rest)) =
      (t :: ts, trail.flatMap encodeChar ++ 0x7D :: 0x7D :: rest) :=
      takeScalars_append _ (t :: ts) (fun c member => isTokenChar_iff.mpr (inner c member)) (stops_at_blanks trailing _)
    simp only [atFront?, first, second, third, List.append_assoc]

theorem written_of_atFront? {bytes : Bytes} {text : String} (h : atFront? bytes = some text) :
    Written (encode text) ∧ ∃ rest, bytes = encode text ++ rest := by
  unfold atFront? at h
  split at h
  · rename_i rest
    rcases first : takeScalars isBlank 0 rest with ⟨lead, afterLead⟩
    rcases second : takeScalars isTokenChar 0 afterLead with ⟨token, afterToken⟩
    rcases third : takeScalars isBlank 0 afterToken with ⟨trail, afterTrail⟩
    simp only [first, second, third] at h
    split at h
    · rename_i after
      obtain ⟨rfl, leading, -⟩ := (takeScalars_eq_iff _).mp first
      obtain ⟨rfl, inner, -⟩ := (takeScalars_eq_iff _).mp second
      obtain ⟨rfl, trailing, -⟩ := (takeScalars_eq_iff _).mp third
      have same : text = String.ofList (['{', '{'] ++ (lead ++ token ++ trail) ++ ['}', '}']) := by
        rw [← Option.some.inj h]
        simp
      rw [same, encode_braced]
      refine ⟨⟨lead, token, trail, leading, fun c member => isTokenChar_iff.mp (inner c member), trailing, rfl⟩,
        after, ?_⟩
      simp
    · cases h
  · cases h

theorem atFront?_eq_some_iff {bytes : Bytes} {text : String} :
    atFront? bytes = some text ↔ Written (encode text) ∧ ∃ rest, bytes = encode text ++ rest := by
  constructor
  · exact written_of_atFront?
  · rintro ⟨written, rest, rfl⟩
    exact atFront?_of_written written rest

theorem Written.eq_encode {span : Bytes} (h : Written span) : ∃ text, span = encode text := by
  obtain ⟨lead, token, trail, -, -, -, rfl⟩ := h
  exact ⟨_, (encode_braced _).symm⟩

theorem atFront?_eq_none_iff {bytes : Bytes} : atFront? bytes = none ↔ ∀ j, ¬ IsSpan bytes 0 j := by
  constructor
  · intro free j span
    obtain ⟨before, written, after, rfl, empty, -, h⟩ := isSpan_iff.mp span
    obtain ⟨text, rfl⟩ := h.eq_encode
    cases List.length_eq_zero_iff.mp empty
    rw [List.nil_append, atFront?_of_written h] at free
    cases free
  · intro free
    rw [Option.eq_none_iff_forall_ne_some]
    intro text found
    obtain ⟨written, rest, rfl⟩ := atFront?_eq_some_iff.mp found
    exact free _ (isSpan_iff.mpr ⟨[], encode text, rest, rfl, rfl, rfl, written⟩)

end SecretTemplate.Placeholder
