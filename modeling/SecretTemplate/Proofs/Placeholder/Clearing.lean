import SecretTemplate.Proofs.Placeholder.Rendering

namespace SecretTemplate.Placeholder

open Text.Utf8

theorem length_le_find_joined {parts : List (String × Bytes)} (written : ∀ e ∈ parts, Written (encode e.1))
    (first : Bytes) : parts.length ≤ (find (joined first parts)).length := by
  have inParts : parts.length ≤ (parts.flatMap fun e => e.1 :: find e.2).length := by
    induction parts with
    | nil => exact Nat.zero_le _
    | cons e rest ih =>
      have later := ih fun other member => written other (List.mem_cons_of_mem _ member)
      simp only [List.flatMap_cons, List.length_append, List.length_cons]
      omega
  rw [find_joined written, List.length_append]
  omega

theorem find_append_placeholder (front : Bytes) {text : String} (written : Written (encode text)) (rest : Bytes) :
    find (front ++ (encode text ++ rest)) = find front ++ text :: find rest := by
  rw [find, pieces_append_placeholder front written, List.filterMap_append]
  rfl

theorem exists_written_of_find {template : Bytes} (found : find template ≠ []) :
    ∃ before span after, template = before ++ (span ++ after) ∧ Written span := by
  obtain ⟨first, parts, cut⟩ := exists_cut template
  cases parts with
  | nil => exact (found cut.2).elim
  | cons e rest =>
    refine ⟨first, encode e.1, joined e.2 rest, ?_, cut.written e (List.mem_cons_self ..)⟩
    rw [cut.1, joined_cons]

theorem find_ne_nil_of_written {before span after : Bytes} (written : Written span) :
    find (before ++ (span ++ after)) ≠ [] := by
  obtain ⟨text, rfl⟩ := written.eq_encode
  rw [find_append_placeholder before written]
  exact List.append_ne_nil_of_right_ne_nil _ (List.cons_ne_nil _ _)

/-- Somewhere in the template two pairs of braces have placeholders between them, and what is between them reads
    as a placeholder once these have their values. -/
def Encloses (batch : Batch) (template : Bytes) : Prop :=
  ∃ before lead inner after, template = before ++ ([0x7B, 0x7B] ++ joined lead inner ++ [0x7D, 0x7D]) ++ after ∧
    inner ≠ [] ∧ (∀ e ∈ inner, Written (encode e.1)) ∧ Written ([0x7B, 0x7B] ++ filled batch lead inner ++ [0x7D, 0x7D])

/-- A value that is there and has no braces. -/
def Solid (value : String) : Prop := value ≠ "" ∧ '{' ∉ value.toList ∧ '}' ∉ value.toList

instance : DecidablePred Solid := fun value =>
  inferInstanceAs (Decidable (value ≠ "" ∧ '{' ∉ value.toList ∧ '}' ∉ value.toList))

/-- The batch has a value without braces for every placeholder of the template. -/
def Resolves (batch : Batch) (template : Bytes) : Prop :=
  ∀ p ∈ find template, ∃ r, batch.get? p = some r ∧ Solid r.value

theorem Resolves.solid {batch : Batch} {template : Bytes} (h : Resolves batch template) :
    ∀ p ∈ find template, Solid (replacement batch p) := by
  intro p member
  obtain ⟨r, known, solid⟩ := h p member
  simp only [replacement, known, if_neg solid.1]
  exact solid

theorem Solid.bytes {value : String} (solid : Solid value) :
    encode value ≠ [] ∧ 0x7B ∉ encode value ∧ 0x7D ∉ encode value := by
  obtain ⟨nonempty, opening, closing⟩ := solid
  refine ⟨fun empty => nonempty (encode_injective empty), brace_notMem_flatMap fun c member => ?_⟩
  constructor
  · rintro rfl
    exact opening member
  · rintro rfl
    exact closing member

theorem pair_apart {front middle back b y : Bytes} {c : UInt8} (nonempty : middle ≠ []) (free : c ∉ middle)
    (whole : front ++ (middle ++ back) = b ++ c :: c :: y) :
    (∃ z, front = b ++ c :: c :: z ∧ y = z ++ (middle ++ back)) ∨
      ∃ b', back = b' ++ c :: c :: y ∧ b = front ++ (middle ++ b') := by
  have notFirst {rest : Bytes} : c :: rest ≠ middle ++ back := by
    intro same
    cases middle with
    | nil => exact nonempty rfl
    | cons m ms =>
      cases same
      exact free (List.mem_cons_self ..)
  rcases List.append_eq_append_iff.mp whole with ⟨a, rfl, later⟩ | ⟨a, rfl, later⟩
  · rcases List.append_eq_append_iff.mp later with ⟨b', rfl, inBack⟩ | ⟨m, inMiddle, inBack⟩
    · exact .inr ⟨b', inBack, rfl⟩
    · cases m with
      | nil => exact .inr ⟨[], inBack.symm, by rw [inMiddle, List.append_nil, List.append_nil]⟩
      | cons d ds =>
        rw [List.cons_append, List.cons.injEq] at inBack
        rw [inMiddle, ← inBack.1] at free
        exact (free (List.mem_append_right _ (List.mem_cons_self ..))).elim
  · cases a with
    | nil => exact (notFirst later).elim
    | cons d a =>
      rw [List.cons_append, List.cons.injEq] at later
      obtain ⟨rfl, later⟩ := later
      cases a with
      | nil => exact (notFirst later).elim
      | cons d z =>
        rw [List.cons_append, List.cons.injEq] at later
        obtain ⟨rfl, later⟩ := later
        exact .inl ⟨z, rfl, later⟩

theorem pair_of_filled {batch : Batch} {c : UInt8} (brace : c = 0x7B ∨ c = 0x7D) {first b y : Bytes}
    {parts : List (String × Bytes)} (solid : ∀ p ∈ parts.map (·.1), Solid (replacement batch p))
    (whole : filled batch first parts = b ++ c :: c :: y) :
    ∃ first' parts' second parts'', joined first parts = joined first' parts' ++ c :: c :: joined second parts'' ∧
      filled batch first' parts' = b ∧ filled batch second parts'' = y ∧
      parts.map (·.1) = parts'.map (·.1) ++ parts''.map (·.1) := by
  -- The pair stands before the first value or after it, since it is no part of it.
  induction parts generalizing first b with
  | nil =>
    refine ⟨b, [], y, [], ?_, filled_nil .., filled_nil .., rfl⟩
    simpa [joined] using whole
  | cons e rest ih =>
    obtain ⟨nonempty, noOpen, noClose⟩ := (solid e.1 (List.mem_cons_self ..)).bytes
    have free : c ∉ encode (replacement batch e.1) := by
      rcases brace with rfl | rfl
      · exact noOpen
      · exact noClose
    rw [filled_cons] at whole
    rcases pair_apart nonempty free whole with ⟨second, rfl, rfl⟩ | ⟨b', later, rfl⟩
    · refine ⟨b, [], second, e :: rest, ?_, filled_nil .., filled_cons .., rfl⟩
      rw [joined_cons, joined_cons]
      simp [joined]
    · obtain ⟨first', parts', second, parts'', template, front, back, keys⟩ :=
        ih (fun p member => solid p (List.mem_cons_of_mem _ member)) later
      refine ⟨first, (e.1, first') :: parts', second, parts'', ?_, ?_, back, ?_⟩
      · rw [joined_cons, joined_cons, template]
        simp
      · rw [filled_cons, front]
      · rw [List.map_cons, List.map_cons, keys, List.cons_append]

theorem Cut.length_lt {template first first' third : Bytes} {parts parts' later : List (String × Bytes)} {text : String}
    (cut : Cut template first parts) (written : Written (encode text))
    (listed : ∀ e ∈ parts' ++ later, Written (encode e.1))
    (whole : template = joined first' parts' ++ (encode text ++ joined third later)) :
    parts'.length + later.length < parts.length := by
  have before := length_le_find_joined (fun e member => listed e (List.mem_append_left _ member)) first'
  have after := length_le_find_joined (fun e member => listed e (List.mem_append_right _ member)) third
  have all : find template = find (joined first' parts') ++ text :: find (joined third later) := by
    rw [whole, find_append_placeholder _ written]
  have count := congrArg List.length all
  rw [cut.2, List.length_map, List.length_append, List.length_cons] at count
  omega

theorem Cut.encloses {template first : Bytes} {parts : List (String × Bytes)} {batch : Batch}
    (cut : Cut template first parts) (solid : ∀ p ∈ parts.map (·.1), Solid (replacement batch p))
    (left : find (Placeholder.substitute template batch) ≠ []) : Encloses batch template := by
  obtain ⟨before, span, after, whole, written⟩ := exists_written_of_find left
  obtain ⟨body, braced, -⟩ := written.braced
  have output : filled batch first parts = before ++ 0x7B :: 0x7B :: (body ++ 0x7D :: 0x7D :: after) := by
    rw [← cut.substitute batch, whole, braced]
    simp
  obtain ⟨first', parts', second, parts'', opened, -, back, keys⟩ := pair_of_filled (.inl rfl) solid output
  have solid' : ∀ p ∈ parts''.map (·.1), Solid (replacement batch p) := by
    intro p member
    apply solid p
    rw [keys]
    exact List.mem_append_right _ member
  obtain ⟨lead, inner, third, later, closed, filling, -, keys'⟩ := pair_of_filled (.inr rfl) solid' back
  have split : template = joined first' parts' ++ ([0x7B, 0x7B] ++ joined lead inner ++ [0x7D, 0x7D]) ++
      joined third later := by
    rw [cut.1, opened, closed]
    simp
  have reads : Written ([0x7B, 0x7B] ++ filled batch lead inner ++ [0x7D, 0x7D]) := by
    rw [filling]
    rw [braced] at written
    exact written
  have listed : ∀ e ∈ parts' ++ (inner ++ later), Written (encode e.1) := by
    intro e member
    have key : e.1 ∈ parts.map (·.1) := by
      rw [keys, keys', ← List.map_append, ← List.map_append]
      exact List.mem_map_of_mem member
    obtain ⟨own, here, same⟩ := List.mem_map.mp key
    rw [← same]
    exact cut.written own here
  refine ⟨joined first' parts', lead, inner, joined third later, split, ?_, ?_, reads⟩
  · -- With nothing between them the braces would be those of a placeholder that was not found.
    rintro rfl
    obtain ⟨text, same⟩ := reads.eq_encode
    have bare : joined lead [] = filled batch lead [] := rfl
    rw [bare, same, List.append_assoc] at split
    rw [same] at reads
    rw [List.nil_append] at listed
    have fewer := cut.length_lt reads listed split
    have count := congrArg List.length keys
    have count' := congrArg List.length keys'
    simp only [List.length_append, List.length_map, List.length_nil] at count count'
    omega
  · intro e member
    exact listed e (List.mem_append_right _ (List.mem_append_left _ member))

theorem substitute_append_placeholder (front : Bytes) {text : String} (written : Written (encode text)) (rest : Bytes)
    (batch : Batch) :
    substitute (front ++ (encode text ++ rest)) batch =
      substitute front batch ++ (encode (replacement batch text) ++ substitute rest batch) := by
  rw [substitute, pieces_append_placeholder front written, List.flatMap_append, List.flatMap_cons, render_placeholder]
  rfl

theorem substitute_plain {b : UInt8} {bs : Bytes} (free : atFront? (b :: bs) = none) (batch : Batch) :
    substitute (b :: bs) batch = b :: substitute bs batch := by
  rw [substitute, pieces_plain free]
  rfl

theorem substitute_append_unclosed (front : Bytes) {rest : Bytes} (unclosed : 0x7D ∉ rest) (batch : Batch) :
    substitute (front ++ rest) batch = substitute front batch ++ rest := by
  induction front using pieces_induction with
  | nil =>
    refine substitute_of_find_nil ?_ batch
    by_contra found
    obtain ⟨before, span, after, rfl, written⟩ := exists_written_of_find found
    obtain ⟨body, rfl, -⟩ := written.braced
    simp at unclosed
  | plain b bs free ih =>
    have longer : atFront? (b :: bs ++ rest) = none := by
      rw [atFront?_eq_none_iff]
      intro j span
      have short : j ≤ (b :: bs).length := by
        by_contra beyond
        have size := span.size
        have last := span.closes.2
        rw [List.getElem?_append_right (by omega)] at last
        exact unclosed (List.mem_of_getElem? last)
      exact atFront?_eq_none_iff.mp free j ((isSpan_append_left _ short).mp span)
    rw [List.cons_append] at longer ⊢
    rw [substitute_plain longer, substitute_plain free, ih, List.cons_append]
  | placeholder text after written ih =>
    have first := substitute_append_placeholder [] written
    simp only [List.nil_append] at first
    rw [List.append_assoc, first, first, ih]
    simp

theorem substitute_append_unopened {front : Bytes} (unopened : 0x7B ∉ front) (rest : Bytes) (batch : Batch) :
    substitute (front ++ rest) batch = front ++ substitute rest batch := by
  induction front with
  | nil => rfl
  | cons b bs ih =>
    rw [List.mem_cons, not_or] at unopened
    have free : atFront? (b :: (bs ++ rest)) = none := by
      rw [atFront?_eq_none_iff]
      intro j span
      exact unopened.1 (Option.some.inj span.opens.1).symm
    rw [List.cons_append, substitute_plain free, ih unopened.2, List.cons_append]

theorem substitute_joined_unopened {inner : List (String × Bytes)} (written : ∀ e ∈ inner, Written (encode e.1))
    {batch : Batch} {first : Bytes} (unopened : 0x7B ∉ filled batch first inner) (rest : Bytes) :
    substitute (joined first inner ++ rest) batch = filled batch first inner ++ substitute rest batch := by
  induction inner generalizing first with
  | nil =>
    have bare : joined first [] = filled batch first [] := rfl
    rw [bare]
    exact substitute_append_unopened unopened rest batch
  | cons e later ih =>
    simp only [filled_cons, List.mem_append, not_or] at unopened
    have front := substitute_append_unopened unopened.1 [] batch
    have tail := ih (fun other member => written other (List.mem_cons_of_mem _ member)) unopened.2.2
    rw [List.append_nil] at front
    rw [joined_cons, filled_cons, List.append_assoc, List.append_assoc,
      substitute_append_placeholder first (written e (List.mem_cons_self ..)), tail, front]
    simp [substitute, pieces, cutFrom]

theorem Encloses.left {batch : Batch} {template : Bytes} (h : Encloses batch template) :
    find (substitute template batch) ≠ [] := by
  obtain ⟨before, lead, inner, after, rfl, some, written, reads⟩ := h
  obtain ⟨body, braced, noOpen, noClose⟩ := reads.braced
  have whole : filled batch lead inner = body := by simpa using braced
  cases inner with
  | nil => exact (some rfl).elim
  | cons e rest =>
    have unopened := noOpen
    have unclosed := noClose
    rw [← whole, filled_cons] at unopened unclosed
    simp only [List.mem_append, not_or] at unopened unclosed
    have opening : 0x7D ∉ [0x7B, 0x7B] ++ lead := by simp [unclosed.1]
    have split : before ++ ([0x7B, 0x7B] ++ joined lead (e :: rest) ++ [0x7D, 0x7D]) ++ after =
        (before ++ ([0x7B, 0x7B] ++ lead)) ++ (encode e.1 ++ (joined e.2 rest ++ ([0x7D, 0x7D] ++ after))) := by
      rw [joined_cons]
      simp
    have ended : substitute ([0x7D, 0x7D] ++ after) batch = [0x7D, 0x7D] ++ substitute after batch :=
      substitute_append_unopened (by decide) after batch
    have output : substitute (before ++ ([0x7B, 0x7B] ++ joined lead (e :: rest) ++ [0x7D, 0x7D]) ++ after) batch =
        substitute before batch ++ (([0x7B, 0x7B] ++ filled batch lead (e :: rest) ++ [0x7D, 0x7D]) ++
          substitute after batch) := by
      rw [split, substitute_append_placeholder _ (written e (List.mem_cons_self ..)),
        substitute_append_unclosed before opening,
        substitute_joined_unopened (fun other member => written other (List.mem_cons_of_mem _ member)) unopened.2.2,
        ended, filled_cons]
      simp
    rw [output]
    exact find_ne_nil_of_written reads

/-- With values that have no braces the output has placeholders exactly where braces of the template enclose
    placeholders of it. -/
theorem find_substitute_eq_nil_iff {batch : Batch} {template : Bytes} (resolves : Resolves batch template) :
    find (substitute template batch) = [] ↔ ¬ Encloses batch template := by
  obtain ⟨first, parts, cut⟩ := exists_cut template
  constructor
  · intro clear encloses
    exact encloses.left clear
  · intro apart
    by_contra left
    refine apart (cut.encloses ?_ left)
    rw [← cut.2]
    exact resolves.solid

end SecretTemplate.Placeholder
