import Mathlib.Data.List.Pairwise
import SecretTemplate.Proofs.Placeholder.Clearing

namespace SecretTemplate.Placeholder

open Text.Utf8

/-- No value takes the place of the placeholder. -/
def stays (batch : Batch) (placeholder : String) : Bool := (substitute? batch placeholder).isNone

theorem stays_iff {batch : Batch} {placeholder : String} :
    stays batch placeholder = true ↔ ∀ r, batch.get? placeholder = some r → r.value = "" := by
  unfold stays substitute?
  cases batch.get? placeholder with
  | none => simp
  | some r => by_cases empty : r.value = "" <;> simp [empty]

theorem replacement_of_stays {batch : Batch} {placeholder : String} (stay : stays batch placeholder = true) :
    replacement batch placeholder = placeholder := by
  unfold replacement
  cases known : batch.get? placeholder with
  | none => rfl
  | some r => exact if_pos (stays_iff.mp stay r known)

/-- A stretch of an output that a placeholder of the template, or its value, takes up. -/
structure Landing where
  placeholder : String
  start : Nat
  stop : Nat

namespace Landing

def span (l : Landing) : Nat × Nat := (l.start, l.stop)

/-- The stretch and the place have a byte in common. -/
def Meets (l : Landing) (s : Nat × Nat) : Prop := l.start < s.2 ∧ s.1 < l.stop

instance (l : Landing) : DecidablePred l.Meets := fun s =>
  inferInstanceAs (Decidable (l.start < s.2 ∧ s.1 < l.stop))

end Landing

/-- The landings of the placeholders in `parts` from left to right, the first of them at `start`. With the empty
    batch these are their places in the template. -/
def landings (batch : Batch) (start : Nat) : List (String × Bytes) → List Landing
  | [] => []
  | e :: rest =>
    let stop := start + (encode (replacement batch e.1)).length
    ⟨e.1, start, stop⟩ :: landings batch (stop + e.2.length) rest

example : (landings (Keyed.insert ∅ "{{ s!k }}" ⟨"s", "k", "", "x"⟩) 0 [("{{ s!k }}", [0x2D]), ("{{ t!k }}", [])]).map
    Landing.span = [(0, 1), (2, 11)] := by decide +kernel

theorem placeholders_landings (batch : Batch) (start : Nat) (parts : List (String × Bytes)) :
    (landings batch start parts).map (·.placeholder) = parts.map (·.1) := by
  induction parts generalizing start with
  | nil => rfl
  | cons e rest ih => rw [landings, List.map_cons, List.map_cons, ih]

theorem start_le_of_mem_landings {batch : Batch} {start : Nat} {parts : List (String × Bytes)} {l : Landing}
    (member : l ∈ landings batch start parts) : start ≤ l.start := by
  induction parts generalizing start with
  | nil => cases member
  | cons e rest ih =>
    rcases List.mem_cons.mp member with rfl | member
    · exact Nat.le_refl _
    · have later := ih member
      omega

theorem landings_ordered (batch : Batch) (start : Nat) (parts : List (String × Bytes)) :
    (landings batch start parts).Pairwise fun a b => a.stop ≤ b.start := by
  induction parts generalizing start with
  | nil => exact .nil
  | cons e rest ih =>
    refine List.pairwise_cons.mpr ⟨fun l member => ?_, ih _⟩
    have later := start_le_of_mem_landings member
    show start + (encode (replacement batch e.1)).length ≤ l.start
    omega

theorem split_behind {batch : Batch} (front first : Bytes) {parts : List (String × Bytes)} {l : Landing}
    (member : l ∈ landings batch (front.length + first.length) parts) :
    ∃ before after, front ++ filled batch first parts = before ++ (encode (replacement batch l.placeholder) ++ after) ∧
      before.length = l.start ∧ l.start + (encode (replacement batch l.placeholder)).length = l.stop := by
  induction parts generalizing front first with
  | nil => cases member
  | cons e rest ih =>
    rcases List.mem_cons.mp member with rfl | member
    · refine ⟨front ++ first, filled batch e.2 rest, ?_, List.length_append, rfl⟩
      rw [filled_cons, List.append_assoc]
    · have next : front.length + first.length + (encode (replacement batch e.1)).length =
          (front ++ (first ++ encode (replacement batch e.1))).length := by
        rw [List.length_append, List.length_append, Nat.add_assoc]
      rw [next] at member
      obtain ⟨before, after, whole, place⟩ := ih _ e.2 member
      refine ⟨before, after, ?_, place⟩
      rw [← whole, filled_cons]
      simp only [List.append_assoc]

theorem split_of_mem_landings {batch : Batch} {first : Bytes} {parts : List (String × Bytes)} {l : Landing}
    (member : l ∈ landings batch first.length parts) :
    ∃ before after, filled batch first parts = before ++ (encode (replacement batch l.placeholder) ++ after) ∧
      before.length = l.start ∧ l.start + (encode (replacement batch l.placeholder)).length = l.stop := by
  apply split_behind [] first
  rw [List.length_nil, Nat.zero_add]
  exact member

theorem landings_apart {batch : Batch} {start : Nat} {parts : List (String × Bytes)} {l l' : Landing}
    (member : l ∈ landings batch start parts) (member' : l' ∈ landings batch start parts) (other : l ≠ l') :
    l.stop ≤ l'.start ∨ l'.stop ≤ l.start := by
  have either : (landings batch start parts).Pairwise fun a b => a.stop ≤ b.start ∨ b.stop ≤ a.start := by
    refine (landings_ordered batch start parts).imp ?_
    intro a b before
    exact .inl before
  have symmetric : Std.Symm fun a b : Landing => a.stop ≤ b.start ∨ b.stop ≤ a.start := ⟨fun _ _ => Or.symm⟩
  exact either.forall member member' other

theorem meets_of_isSpan {batch : Batch} {first : Bytes} {parts : List (String × Bytes)} {i j : Nat}
    (written : ∀ e ∈ parts, Written (encode e.1)) (clear : find first = []) (gaps : ∀ e ∈ parts, find e.2 = [])
    (span : IsSpan (filled batch first parts) i j) (offset : Nat) :
    ∃ l ∈ landings batch (offset + first.length) parts, l.Meets (offset + i, offset + j) := by
  have inGap {gap : Bytes} {i j : Nat} (clear : find gap = []) : ¬ IsSpan gap i j := by
    intro span
    obtain ⟨before, _, after, rfl, -, -, written⟩ := isSpan_iff.mp span
    exact find_ne_nil_of_written written clear
  induction parts generalizing first i j offset with
  | nil =>
    rw [filled_nil] at span
    exact (inGap clear span).elim
  | cons e rest ih =>
    have size := span.size
    rw [filled_cons] at span
    by_cases before : j ≤ first.length
    · exact (inGap clear ((isSpan_append_left _ before).mp span)).elim
    · by_cases after : first.length + (encode (replacement batch e.1)).length ≤ i
      · have after' : first.length + (encode (replacement batch e.1)).length ≤ j := by omega
        obtain ⟨i', rfl⟩ := Nat.exists_eq_add_of_le after
        obtain ⟨j', rfl⟩ := Nat.exists_eq_add_of_le after'
        rw [← List.append_assoc, ← List.length_append, isSpan_append_right] at span
        obtain ⟨l, member, meets⟩ := ih (fun e' member => written e' (List.mem_cons_of_mem _ member))
          (gaps e (List.mem_cons_self ..)) (fun e' member => gaps e' (List.mem_cons_of_mem _ member)) span
          (offset + first.length + (encode (replacement batch e.1)).length)
        refine ⟨l, List.mem_cons_of_mem _ member, ?_⟩
        simp only [Landing.Meets] at meets ⊢
        omega
      · refine ⟨_, List.mem_cons_self .., ?_⟩
        simp only [Landing.Meets]
        omega

theorem places_unique {places places' : List (Nat × Nat)} (ordered : places.Pairwise fun a b => a.2 ≤ b.1)
    (ordered' : places'.Pairwise fun a b => a.2 ≤ b.1) (proper : ∀ s ∈ places, s.1 < s.2)
    (same : ∀ s, s ∈ places ↔ s ∈ places') : places = places' := by
  have distinct {places : List (Nat × Nat)} (ordered : places.Pairwise fun a b => a.2 ≤ b.1)
      (proper : ∀ s ∈ places, s.1 < s.2) : places.Nodup := by
    refine ordered.imp_of_mem ?_
    intro a b member _ before same
    have size := proper a member
    rw [← same] at before
    omega
  have perm : places.Perm places' :=
    (List.perm_ext_iff_of_nodup (distinct ordered proper)
      (distinct ordered' fun s member => proper s ((same s).mpr member))).mpr same
  refine perm.eq_of_pairwise ?_ ordered ordered'
  intro a b here there before after
  have size := proper a here
  have size' := proper b ((same b).mpr there)
  omega

/-- How the placeholders of an output come of those of its template. -/
structure Traced (batch : Batch) (template output : Bytes) (sources images : List Landing)
    (places : List (Nat × Nat)) : Prop where
  found : Exact template (sources.map Landing.span)
  reported : Exact output places
  paired : images.map (·.placeholder) = sources.map (·.placeholder)
  holds : ∀ l ∈ images, output.extract l.start l.stop = encode (replacement batch l.placeholder)
  origin : ∀ s ∈ places, (∃ l ∈ images, stays batch l.placeholder = false ∧ l.Meets s) ∨
    ∃ l ∈ images, stays batch l.placeholder = true ∧ l.span = s
  kept : ∀ (k : Nat) source image, sources[k]? = some source → images[k]? = some image →
    stays batch source.placeholder = true →
    image.span ∈ places ∧ output.extract image.start image.stop = template.extract source.start source.stop
  inOrder : (places.filter fun s => images.all fun l => stays batch l.placeholder || !l.Meets s) =
    (images.filter fun l => stays batch l.placeholder).map Landing.span

theorem extract_of_mem_landings {batch : Batch} {first : Bytes} {parts : List (String × Bytes)} {l : Landing}
    (member : l ∈ landings batch first.length parts) :
    (filled batch first parts).extract l.start l.stop = encode (replacement batch l.placeholder) := by
  obtain ⟨before, after, whole, start, stop⟩ := split_of_mem_landings member
  rw [whole, ← start, ← stop, ← start, List.extract_eq_take_drop, List.drop_left, Nat.add_sub_cancel_left,
    List.take_left]

theorem written_of_mem_landings {batch : Batch} {start : Nat} {parts : List (String × Bytes)} {l : Landing}
    (written : ∀ e ∈ parts, Written (encode e.1)) (member : l ∈ landings batch start parts) :
    Written (encode l.placeholder) := by
  have listed : l.placeholder ∈ parts.map (·.1) := by
    rw [← placeholders_landings batch start parts]
    exact List.mem_map_of_mem member
  obtain ⟨e, here, same⟩ := List.mem_map.mp listed
  rw [← same]
  exact written e here

theorem isSpan_of_stays {batch : Batch} {first : Bytes} {parts : List (String × Bytes)} {l : Landing}
    (written : ∀ e ∈ parts, Written (encode e.1)) (member : l ∈ landings batch first.length parts)
    (stay : stays batch l.placeholder = true) : IsSpan (filled batch first parts) l.start l.stop := by
  obtain ⟨before, after, whole, start, stop⟩ := split_of_mem_landings member
  rw [replacement_of_stays stay] at whole stop
  exact isSpan_iff.mpr ⟨before, _, after, whole, start, stop, written_of_mem_landings written member⟩

theorem span_eq_of_meets {text : Bytes} {l : Landing} {s : Nat × Nat} (here : IsSpan text l.start l.stop)
    (there : IsSpan text s.1 s.2) (meets : l.Meets s) : l.span = s := by
  obtain ⟨before, after⟩ := meets
  rcases Nat.lt_trichotomy l.start s.1 with less | same | more
  · have apart := here.disjoint there less
    omega
  · rw [← same] at there
    exact Prod.ext same (here.end_unique there)
  · have apart := there.disjoint here more
    omega

section Cut

variable {template first : Bytes} {parts : List (String × Bytes)}

theorem Cut.meets (cut : Cut template first parts) (batch : Batch) {i j : Nat}
    (span : IsSpan (filled batch first parts) i j) : ∃ l ∈ landings batch first.length parts, l.Meets (i, j) := by
  obtain ⟨clear, gaps⟩ := cut.gaps
  have found := meets_of_isSpan cut.written clear gaps span 0
  simp only [Nat.zero_add] at found
  exact found

theorem Cut.mem_left_iff (cut : Cut template first parts) (batch : Batch) (s : Nat × Nat) :
    s ∈ ((landings batch first.length parts).filter fun l => stays batch l.placeholder).map Landing.span ↔
      IsSpan (filled batch first parts) s.1 s.2 ∧
        ∀ l ∈ landings batch first.length parts, stays batch l.placeholder = true ∨ ¬ l.Meets s := by
  constructor
  · intro left
    obtain ⟨l, kept, rfl⟩ := List.mem_map.mp left
    obtain ⟨member, stay⟩ := List.mem_filter.mp kept
    refine ⟨isSpan_of_stays cut.written member stay, fun l' member' => ?_⟩
    by_cases same : l' = l
    · subst same
      exact .inl stay
    · have apart := landings_apart member' member same
      refine .inr fun meets => ?_
      simp only [Landing.Meets, Landing.span] at meets
      omega
  · rintro ⟨span, free⟩
    obtain ⟨l, member, meets⟩ := cut.meets batch span
    rcases free l member with stay | other
    · have whole := isSpan_of_stays cut.written member stay
      exact List.mem_map.mpr ⟨l, List.mem_filter.mpr ⟨member, stay⟩, span_eq_of_meets whole span meets⟩
    · exact (other meets).elim

theorem left_ordered (batch : Batch) (start : Nat) (parts : List (String × Bytes)) :
    (((landings batch start parts).filter fun l => stays batch l.placeholder).map Landing.span).Pairwise
      fun a b => a.2 ≤ b.1 :=
  List.pairwise_map.mpr ((landings_ordered batch start parts).filter _)

/-- With nothing to put in their place all placeholders land where they stand. -/
theorem Cut.exact_landings (cut : Cut template first parts) :
    Exact template ((landings ∅ first.length parts).map Landing.span) := by
  have all : (landings ∅ first.length parts).filter (fun l => stays ∅ l.placeholder) = landings ∅ first.length parts :=
    List.filter_eq_self.mpr fun _ _ => rfl
  have same : filled ∅ first parts = template := cut.1.symm
  have left := cut.mem_left_iff ∅
  have ordered := left_ordered ∅ first.length parts
  rw [all] at left ordered
  refine ⟨ordered, fun i j => ?_, ?_⟩
  · rw [left (i, j), same]
    exact ⟨fun h => h.1, fun span => ⟨span, fun _ _ => .inl rfl⟩⟩
  · rw [cut.2, ← placeholders_landings ∅ first.length parts, List.map_map, List.map_map]
    refine List.map_congr_left fun l member => ?_
    have here := extract_of_mem_landings member
    rw [same] at here
    exact here.symm

theorem Cut.left_places (cut : Cut template first parts) (batch : Batch) {places : List (Nat × Nat)}
    (whole : Exact (filled batch first parts) places) :
    (places.filter fun s => (landings batch first.length parts).all fun l => stays batch l.placeholder || !l.Meets s) =
      ((landings batch first.length parts).filter fun l => stays batch l.placeholder).map Landing.span := by
  apply places_unique (whole.ordered.filter _) (left_ordered batch _ _)
  · rintro ⟨i, j⟩ member
    have size := ((whole.complete i j).mp (List.mem_filter.mp member).1).size
    show i < j
    omega
  · rintro ⟨i, j⟩
    rw [cut.mem_left_iff batch, List.mem_filter, whole.complete]
    simp [List.all_eq_true]

theorem Cut.traced (cut : Cut template first parts) (batch : Batch) :
    ∃ places, Traced batch template (render template batch).value.text (landings ∅ first.length parts)
      (landings batch first.length parts) places := by
  have output : (render template batch).value.text = filled batch first parts := cut.substitute batch
  obtain ⟨places, whole⟩ := exists_exact (filled batch first parts)
  have paired : (landings batch first.length parts).map (·.placeholder) =
      (landings ∅ first.length parts).map (·.placeholder) := by
    rw [placeholders_landings, placeholders_landings]
  rw [output]
  exact ⟨places, {
    found := cut.exact_landings
    reported := whole
    paired := paired
    holds := fun l member => extract_of_mem_landings member
    origin := by
      rintro ⟨i, j⟩ reported
      have span := (whole.complete i j).mp reported
      obtain ⟨l, member, meets⟩ := cut.meets batch span
      cases stay : stays batch l.placeholder with
      | false => exact .inl ⟨l, member, stay, meets⟩
      | true =>
        have own := isSpan_of_stays cut.written member stay
        exact .inr ⟨l, member, stay, span_eq_of_meets own span meets⟩
    kept := by
      intro k source image from_here to_there stay
      have names := congrArg (·[k]?) paired
      simp only [List.getElem?_map, from_here, to_there, Option.map_some, Option.some.injEq] at names
      have member := List.mem_of_getElem? to_there
      have stood := extract_of_mem_landings (List.mem_of_getElem? from_here)
      rw [show filled ∅ first parts = template from cut.1.symm] at stood
      rw [← names] at stay
      refine ⟨(whole.complete _ _).mpr (isSpan_of_stays cut.written member stay), ?_⟩
      rw [extract_of_mem_landings member, replacement_of_stays stay, stood, names]
      rfl
    inOrder := cut.left_places batch whole }⟩

end Cut

/-- Rendering makes placeholders only of values: a placeholder of the output shares a byte with a value that was put
    in, or it is one of the template that was left in place. Those are all found again, as many and in the order in
    which they stood. -/
theorem placeholders_of_render (template : Bytes) (batch : Batch) :
    ∃ first parts places, Cut template first parts ∧
      Traced batch template (render template batch).value.text (landings ∅ first.length parts)
        (landings batch first.length parts) places := by
  obtain ⟨first, parts, cut⟩ := exists_cut template
  obtain ⟨places, traced⟩ := cut.traced batch
  exact ⟨first, parts, places, cut, traced⟩

end SecretTemplate.Placeholder
