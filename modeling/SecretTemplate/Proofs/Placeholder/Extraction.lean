import SecretTemplate.Proofs.Placeholder.Spans

namespace SecretTemplate.Placeholder

open Text.Utf8

theorem cutFrom_inside (n : Nat) (bytes : Bytes) : cutFrom n bytes = pieces (bytes.drop n) := by
  induction bytes generalizing n with
  | nil => simp [pieces, cutFrom]
  | cons b bs ih =>
    cases n with
    | zero => rfl
    | succ n => rw [cutFrom, ih, List.drop_succ_cons]

theorem pieces_plain {b : UInt8} {bs : Bytes} (free : atFront? (b :: bs) = none) :
    pieces (b :: bs) = .plain b :: pieces bs := by
  unfold pieces
  rw [cutFrom, free]

theorem pieces_placeholder {text : String} (written : Written (encode text)) (rest : Bytes) :
    pieces (encode text ++ rest) = .placeholder text :: pieces rest := by
  have first := atFront?_of_written written rest
  obtain ⟨body, braced, -⟩ := written.braced
  cases front : encode text with
  | nil =>
    rw [front] at braced
    cases braced
  | cons b bs =>
    rw [front] at first
    rw [List.cons_append] at first ⊢
    have after : (bs ++ rest).drop ((b :: bs).length - 1) = rest := by
      rw [List.length_cons, Nat.add_sub_cancel, List.drop_left]
    rw [pieces, cutFrom, first]
    simp only [front, cutFrom_inside, after]

theorem pieces_induction {motive : Bytes → Prop} (nil : motive [])
    (plain : ∀ b bs, atFront? (b :: bs) = none → motive bs → motive (b :: bs))
    (placeholder : ∀ text rest, Written (encode text) → motive rest → motive (encode text ++ rest))
    (bytes : Bytes) : motive bytes := by
  generalize size : bytes.length = n
  induction n using Nat.strongRecOn generalizing bytes with
  | ind n ih =>
    cases bytes with
    | nil => exact nil
    | cons b bs =>
      cases first : atFront? (b :: bs) with
      | none =>
        rw [List.length_cons] at size
        exact plain b bs first (ih bs.length (by omega) bs rfl)
      | some text =>
        obtain ⟨written, rest, whole⟩ := atFront?_eq_some_iff.mp first
        have long : 0 < (encode text).length := by
          obtain ⟨body, braced, -⟩ := written.braced
          rw [braced]
          exact Nat.succ_pos _
        rw [whole, List.length_append] at size
        rw [whole]
        exact placeholder text rest written (ih rest.length (by omega) rest rfl)

theorem find_plain {b : UInt8} {bs : Bytes} (free : atFront? (b :: bs) = none) : find (b :: bs) = find bs := by
  unfold find
  rw [pieces_plain free]
  rfl

theorem find_placeholder {text : String} (written : Written (encode text)) (rest : Bytes) :
    find (encode text ++ rest) = text :: find rest := by
  unfold find
  rw [pieces_placeholder written]
  rfl

theorem written_of_mem_find {template : Bytes} {text : String} (h : text ∈ find template) : Written (encode text) := by
  induction template using pieces_induction with
  | nil => cases h
  | plain b bs free ih =>
    rw [find_plain free] at h
    exact ih h
  | placeholder first rest written ih =>
    rw [find_placeholder written] at h
    rcases List.mem_cons.mp h with rfl | h
    · exact written
    · exact ih h

def moved (n : Nat) (places : List (Nat × Nat)) : List (Nat × Nat) := places.map fun s => (n + s.1, n + s.2)

/-- `places` are those of the placeholders of a template from left to right, and what stands there is listed. -/
structure Exact (template : Bytes) (places : List (Nat × Nat)) : Prop where
  ordered : places.Pairwise fun a b => a.2 ≤ b.1
  complete : ∀ i j, (i, j) ∈ places ↔ IsSpan template i j
  listed : (find template).map encode = places.map fun s => template.extract s.1 s.2

theorem ordered_moved {places : List (Nat × Nat)} (ordered : places.Pairwise fun a b => a.2 ≤ b.1) (n : Nat) :
    (moved n places).Pairwise fun a b => a.2 ≤ b.1 := by
  refine List.pairwise_map.mpr (ordered.imp ?_)
  intro a b before
  exact Nat.add_le_add_left before n

theorem mem_moved {front rest : Bytes} {places : List (Nat × Nat)}
    (complete : ∀ i j, (i, j) ∈ places ↔ IsSpan rest i j) (i j : Nat) :
    (i, j) ∈ moved front.length places ↔ front.length ≤ i ∧ IsSpan (front ++ rest) i j := by
  constructor
  · intro member
    obtain ⟨⟨i', j'⟩, listed, same⟩ := List.mem_map.mp member
    cases same
    exact ⟨Nat.le_add_right .., (isSpan_append_right ..).mpr ((complete i' j').mp listed)⟩
  · rintro ⟨after, span⟩
    have size := span.size
    obtain ⟨i', rfl⟩ := Nat.exists_eq_add_of_le after
    obtain ⟨j', rfl⟩ := Nat.exists_eq_add_of_le (show front.length ≤ j by omega)
    have listed := (complete i' j').mpr ((isSpan_append_right ..).mp span)
    exact List.mem_map.mpr ⟨(i', j'), listed, rfl⟩

theorem extract_moved (front rest : Bytes) (places : List (Nat × Nat)) :
    ((moved front.length places).map fun s => (front ++ rest).extract s.1 s.2) =
      places.map fun s => rest.extract s.1 s.2 := by
  rw [moved, List.map_map]
  apply List.map_congr_left
  intro s _
  exact extract_append_right front rest s.1 s.2

theorem Exact.plain {b : UInt8} {bs : Bytes} {places : List (Nat × Nat)} (later : Exact bs places)
    (free : atFront? (b :: bs) = none) : Exact (b :: bs) (moved 1 places) where
  ordered := ordered_moved later.ordered 1
  complete := by
    intro i j
    rw [show moved 1 places = moved [b].length places from rfl, mem_moved later.complete]
    refine ⟨fun h => h.2, fun span => ⟨?_, span⟩⟩
    by_contra start
    have zero : i = 0 := by
      rw [List.length_singleton] at start
      omega
    rw [zero] at span
    exact atFront?_eq_none_iff.mp free j span
  listed := by
    rw [find_plain free, later.listed]
    exact (extract_moved [b] bs places).symm

theorem Exact.placeholder {text : String} {rest : Bytes} {places : List (Nat × Nat)} (later : Exact rest places)
    (written : Written (encode text)) :
    Exact (encode text ++ rest) ((0, (encode text).length) :: moved (encode text).length places) := by
  have front : IsSpan (encode text ++ rest) 0 (encode text).length :=
    isSpan_iff.mpr ⟨[], encode text, rest, rfl, rfl, Nat.zero_add _, written⟩
  constructor
  · refine List.pairwise_cons.mpr ⟨?_, ordered_moved later.ordered _⟩
    rintro ⟨i, j⟩ member
    exact ((mem_moved later.complete i j).mp member).1
  · intro i j
    rw [List.mem_cons, mem_moved later.complete]
    constructor
    · rintro (same | ⟨-, span⟩)
      · cases same
        exact front
      · exact span
    · intro span
      rcases Nat.eq_zero_or_pos i with rfl | positive
      · left
        rw [span.end_unique front]
      · exact .inr ⟨front.disjoint span positive, span⟩
  · rw [find_placeholder written, List.map_cons, List.map_cons, later.listed, extract_moved]
    rw [List.extract_eq_take_drop, List.drop_zero, Nat.sub_zero, List.take_left]

theorem exists_exact (template : Bytes) : ∃ places, Exact template places := by
  induction template using pieces_induction with
  | nil =>
    refine ⟨[], .nil, fun i j => ?_, rfl⟩
    constructor
    · intro member
      cases member
    · intro span
      have size := span.size
      rw [List.length_nil] at size
      omega
  | plain b bs free ih =>
    obtain ⟨places, whole⟩ := ih
    exact ⟨_, whole.plain free⟩
  | placeholder text rest written ih =>
    obtain ⟨places, whole⟩ := ih
    exact ⟨_, whole.placeholder written⟩

/-- The placeholders that are found are the placeholders of the template: each of them once and in order,
    byte for byte also when it is decoded with replacements, and nothing else. No two of them overlap. -/
theorem find_exact (template : Bytes) :
    ∃ places : List (Nat × Nat),
      places.Pairwise (fun a b => a.2 ≤ b.1) ∧ (∀ i j, (i, j) ∈ places ↔ IsSpan template i j) ∧
      (find template).map encode = places.map (fun s => template.extract s.1 s.2) ∧
      find template = places.map (fun s => lossy (template.extract s.1 s.2)) ∧
      ∀ i j i' j', IsSpan template i j → IsSpan template i' j' → i = i' ∧ j = j' ∨ j ≤ i' ∨ j' ≤ i := by
  obtain ⟨places, whole⟩ := exists_exact template
  refine ⟨places, whole.ordered, whole.complete, whole.listed, ?_, ?_⟩
  · have decoded : (fun s : Nat × Nat => lossy (template.extract s.1 s.2)) =
        lossy ∘ fun s => template.extract s.1 s.2 := rfl
    have same : lossy ∘ encode = id := funext lossy_encode
    rw [decoded, ← List.map_map, ← whole.listed, List.map_map, same, List.map_id]
  · intro i j i' j' first second
    rcases Nat.lt_trichotomy i i' with less | rfl | more
    · exact .inr (.inl (first.disjoint second less))
    · exact .inl ⟨rfl, first.end_unique second⟩
    · exact .inr (.inr (second.disjoint first more))

end SecretTemplate.Placeholder
