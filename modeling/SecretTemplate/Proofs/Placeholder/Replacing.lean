import SecretTemplate.Proofs.Placeholder.Clearing

namespace SecretTemplate.Placeholder

open Text.Utf8

/-- The text with `value` in the place of every literal occurrence of `token`, taken from the left. `inside` bytes
    belong to an occurrence that was replaced already. -/
def replaceFrom (token value : Bytes) (inside : Nat) : Bytes → Bytes
  | [] => []
  | b :: bs =>
    match inside with
    | n + 1 => replaceFrom token value n bs
    | 0 =>
      if token.isPrefixOf (b :: bs) then value ++ replaceFrom token value (token.length - 1) bs
      else b :: replaceFrom token value 0 bs

def replaceAll (token value text : Bytes) : Bytes := replaceFrom token value 0 text

def replaceEntry (text : Bytes) (e : String × Reference) : Bytes :=
  if e.2.value = "" then text else replaceAll (encode e.1) (encode e.2.value) text

def replaceEach (entries : List (String × Reference)) (text : Bytes) : Bytes := entries.foldl replaceEntry text

/-- No two opening braces stand side by side. -/
def Unopened (gap : Bytes) : Prop := ¬ [0x7B, 0x7B] <:+: gap

instance : DecidablePred Unopened := fun gap => inferInstanceAs (Decidable (¬ [0x7B, 0x7B] <:+: gap))

section Occurrences

variable {token value text front rest : Bytes} {n : Nat}

theorem replaceFrom_inside (token value : Bytes) (n : Nat) (text : Bytes) :
    replaceFrom token value n text = replaceAll token value (text.drop n) := by
  induction text generalizing n with
  | nil => simp [replaceAll, replaceFrom]
  | cons b bs ih =>
    cases n with
    | zero => rfl
    | succ n => rw [replaceFrom, ih, List.drop_succ_cons]

theorem replaceAll_self (value rest : Bytes) (nonempty : token ≠ []) :
    replaceAll token value (token ++ rest) = value ++ replaceAll token value rest := by
  have front : token.isPrefixOf (token ++ rest) = true := List.isPrefixOf_iff_prefix.mpr (List.prefix_append ..)
  cases token with
  | nil => exact (nonempty rfl).elim
  | cons b bs =>
    rw [List.cons_append] at front ⊢
    have after : (bs ++ rest).drop ((b :: bs).length - 1) = rest := by
      rw [List.length_cons, Nat.add_sub_cancel, List.drop_left]
    rw [replaceAll, replaceFrom, if_pos front, replaceFrom_inside, after]

theorem replaceAll_append (value : Bytes) (absent : ∀ n < front.length, ¬ token <+: (front ++ rest).drop n) :
    replaceAll token value (front ++ rest) = front ++ replaceAll token value rest := by
  induction front with
  | nil => rfl
  | cons b bs ih =>
    have here : ¬ token.isPrefixOf (b :: (bs ++ rest)) = true := by
      rw [List.isPrefixOf_iff_prefix]
      exact absent 0 (Nat.succ_pos _)
    have later : ∀ n < bs.length, ¬ token <+: (bs ++ rest).drop n := fun n less =>
      absent (n + 1) (Nat.succ_lt_succ less)
    rw [List.cons_append, replaceAll, replaceFrom, if_neg here]
    exact congrArg (b :: ·) (ih later)

theorem isSpan_of_prefix (written : Written token) (occurs : token <+: text.drop n) :
    IsSpan text n (n + token.length) := by
  obtain ⟨rest, whole⟩ := occurs
  obtain ⟨body, braced, -⟩ := written.braced
  have within : n ≤ text.length := by
    by_contra beyond
    rw [List.drop_of_length_le (by omega), braced] at whole
    cases whole
  refine isSpan_iff.mpr ⟨text.take n, token, rest, ?_, List.length_take_of_le within, rfl, written⟩
  rw [whole, List.take_append_drop]

/-- Bytes that open no placeholder but, if they are one, themselves. -/
def Settled (bytes : Bytes) : Prop := Written bytes ∨ bytes ≠ [] ∧ 0x7B ∉ bytes

theorem Unopened.absent (unopened : Unopened front) (written : Written token)
    (next : rest = [] ∨ ∃ bytes after, rest = bytes ++ after ∧ Settled bytes) :
    ∀ n < front.length, ¬ token <+: (front ++ rest).drop n := by
  intro n less occurs
  have span := isSpan_of_prefix written occurs
  obtain ⟨first, second⟩ := span.opens
  -- An opening brace at the end of the gap has no other one after it, unless that opens a placeholder of its own.
  have inside : n + 1 < front.length := by
    by_contra last
    have same : n + 1 = front.length := by omega
    rw [List.getElem?_append_right (by omega), same, Nat.sub_self] at second
    rcases next with rfl | ⟨bytes, after, rfl, settled⟩
    · cases second
    · rcases settled with other | ⟨nonempty, free⟩
      · have there : IsSpan (front ++ (bytes ++ after)) front.length (front.length + bytes.length) :=
          isSpan_iff.mpr ⟨front, bytes, after, rfl, rfl, rfl, other⟩
        have apart := span.disjoint there less
        have size := span.size
        omega
      · rw [List.getElem?_append_left (List.length_pos_iff.mpr nonempty)] at second
        exact free (List.mem_of_getElem? second)
  rw [List.getElem?_append_left (by omega)] at first
  rw [List.getElem?_append_left inside] at second
  apply unopened
  obtain ⟨bound, here⟩ := List.getElem?_eq_some_iff.mp first
  obtain ⟨bound', here'⟩ := List.getElem?_eq_some_iff.mp second
  have cut : front.drop n = 0x7B :: 0x7B :: front.drop (n + 2) := by
    rw [List.drop_eq_getElem_cons bound, List.drop_eq_getElem_cons bound', here, here']
  refine ⟨front.take n, front.drop (n + 2), ?_⟩
  rw [List.append_assoc]
  exact (congrArg (front.take n ++ ·) cut.symm).trans (List.take_append_drop n front)

theorem Settled.absent (settled : Settled front) (written : Written token) (other : front ≠ token) :
    ∀ n < front.length, ¬ token <+: (front ++ rest).drop n := by
  intro n less occurs
  have span := isSpan_of_prefix written occurs
  rcases settled with own | ⟨-, free⟩
  · have here : IsSpan (front ++ rest) 0 front.length :=
      isSpan_iff.mpr ⟨[], front, rest, rfl, rfl, Nat.zero_add _, own⟩
    rcases Nat.eq_zero_or_pos n with rfl | positive
    · have same := here.end_unique span
      rw [List.drop_zero] at occurs
      rw [Nat.zero_add] at same
      have front_first := List.prefix_of_prefix_length_le (List.prefix_append ..) occurs (Nat.le_of_eq same)
      exact other (front_first.eq_of_length same)
    · have apart := here.disjoint span positive
      omega
  · have first := span.opens.1
    rw [List.getElem?_append_left less] at first
    exact free (List.mem_of_getElem? first)

end Occurrences

section Entries

variable {batch : Batch} {first : Bytes} {parts : List (String × Bytes)} {p : String} {r : Reference}

theorem encode_plain {value : String} (plain : '{' ∉ value.toList) : 0x7B ∉ encode value := by
  intro member
  obtain ⟨c, listed, byte⟩ := List.mem_flatMap.mp member
  have same : c.toNat = 0x7B := toNat_eq_of_mem_encodeChar byte (by decide)
  have brace : c = '{' := Char.toNat_inj.mp same
  exact plain (brace ▸ listed)

theorem replacement_cases (batch : Batch) (q : String) :
    replacement batch q = q ∨ ∃ r, batch.get? q = some r ∧ r.value ≠ "" ∧ replacement batch q = r.value := by
  unfold replacement
  cases known : batch.get? q with
  | none => exact .inl rfl
  | some r =>
    by_cases empty : r.value = ""
    · exact .inl (if_pos empty)
    · exact .inr ⟨r, rfl, empty, if_neg empty⟩

/-- No value of the batch can open a placeholder. -/
def Plain (batch : Batch) : Prop := ∀ q r, batch.get? q = some r → '{' ∉ r.value.toList

theorem settled_replacement {q : String} (written : Written (encode q)) (plain : Plain batch) :
    Settled (encode (replacement batch q)) := by
  rcases replacement_cases batch q with left | ⟨r, known, nonempty, value⟩
  · rw [left]
    exact .inl written
  · rw [value]
    exact .inr ⟨fun none => nonempty (encode_injective none), encode_plain (plain q r known)⟩

theorem replacement_ne {q : String} (own : Written (encode p)) (other : q ≠ p) (plain : Plain batch) :
    encode (replacement batch q) ≠ encode p := by
  intro equal
  have same : replacement batch q = p := encode_injective equal
  rcases replacement_cases batch q with left | ⟨r, known, -, value⟩
  · exact other (left.symm.trans same)
  · obtain ⟨body, braced, -⟩ := own.braced
    rw [← same, value] at braced
    apply encode_plain (plain q r known)
    rw [braced]
    exact List.mem_cons_self ..

theorem replacement_insert (batch : Batch) (p : String) (r : Reference) (q : String) :
    replacement (batch.insert p r) q =
      if q = p then if r.value = "" then p else r.value else replacement batch q := by
  unfold replacement
  rw [Keyed.get?_insert]
  by_cases same : q = p
  · subst same
    simp
  · simp [same]

theorem replacement_of_unknown (unknown : batch.get? p = none) : replacement batch p = p := by
  rw [replacement, unknown]

theorem replaceAll_filled (written : ∀ e ∈ parts, Written (encode e.1)) (own : Written (encode p)) (plain : Plain batch)
    (unknown : batch.get? p = none) (nonempty : r.value ≠ "") (unopened : Unopened first)
    (gaps : ∀ e ∈ parts, Unopened e.2) :
    replaceAll (encode p) (encode r.value) (filled batch first parts) = filled (batch.insert p r) first parts := by
  have bare : encode p ≠ [] := by
    obtain ⟨body, braced, -⟩ := own.braced
    rw [braced]
    exact List.cons_ne_nil _ _
  induction parts generalizing first with
  | nil =>
    have kept := replaceAll_append (encode r.value) (unopened.absent own (.inl rfl))
    simpa [replaceAll, replaceFrom] using kept
  | cons e rest ih =>
    have settled := settled_replacement (written e (List.mem_cons_self ..)) plain
    have later := ih (fun e' member => written e' (List.mem_cons_of_mem _ member)) (gaps e (List.mem_cons_self ..))
      fun e' member => gaps e' (List.mem_cons_of_mem _ member)
    rw [filled_cons, filled_cons, replaceAll_append _ (unopened.absent own (.inr ⟨_, _, rfl, settled⟩)), ← later,
      replacement_insert]
    congr 1
    by_cases same : e.1 = p
    · rw [if_pos same, if_neg nonempty, same, replacement_of_unknown unknown, replaceAll_self _ _ bare]
    · rw [if_neg same]
      exact replaceAll_append _ (settled.absent own (replacement_ne own same plain))

theorem replaceEntry_filled (written : ∀ e ∈ parts, Written (encode e.1)) (own : Written (encode p))
    (plain : Plain batch) (unknown : batch.get? p = none) (unopened : Unopened first)
    (gaps : ∀ e ∈ parts, Unopened e.2) :
    replaceEntry (filled batch first parts) (p, r) = filled (batch.insert p r) first parts := by
  by_cases empty : r.value = ""
  · have same : replacement (batch.insert p r) = replacement batch := by
      funext q
      rw [replacement_insert, if_pos empty]
      by_cases here : q = p
      · rw [if_pos here, here, replacement_of_unknown unknown]
      · rw [if_neg here]
    rw [replaceEntry, if_pos empty, filled, filled, same]
  · rw [replaceEntry, if_neg empty]
    exact replaceAll_filled written own plain unknown empty unopened gaps

def insertEach (batch : Batch) (entries : List (String × Reference)) : Batch :=
  entries.foldl (fun b e => b.insert e.1 e.2) batch

theorem get?_insertEach {entries : List (String × Reference)} (distinct : (entries.map (·.1)).Nodup) (batch : Batch)
    (key : String) : (insertEach batch entries).get? key = (lookup key entries).or (batch.get? key) := by
  induction entries generalizing batch with
  | nil => rfl
  | cons e rest ih =>
    rw [List.map_cons, List.nodup_cons] at distinct
    rw [insertEach, List.foldl_cons, ← insertEach, ih distinct.2, Keyed.get?_insert, lookup]
    by_cases here : key = e.1
    · have later : lookup e.1 rest = none := lookup_eq_none.mpr distinct.1
      rw [here, later, if_pos rfl, if_pos rfl]
      rfl
    · rw [if_neg here, if_neg (Ne.symm here)]

theorem replaceEach_filled {order : List (String × Reference)} (distinct : (order.map (·.1)).Nodup)
    (fresh : ∀ e ∈ order, batch.get? e.1 = none) (own : ∀ e ∈ order, Written (encode e.1))
    (values : ∀ e ∈ order, '{' ∉ e.2.value.toList) (plain : Plain batch)
    (written : ∀ e ∈ parts, Written (encode e.1)) (unopened : Unopened first) (gaps : ∀ e ∈ parts, Unopened e.2) :
    replaceEach order (filled batch first parts) = filled (insertEach batch order) first parts := by
  induction order generalizing batch with
  | nil => rfl
  | cons e rest ih =>
    rw [List.map_cons, List.nodup_cons] at distinct
    have here := List.mem_cons_self (a := e) (l := rest)
    have step := replaceEntry_filled (r := e.2) written (own e here) plain (fresh e here) unopened gaps
    rw [replaceEach, List.foldl_cons, step]
    apply ih distinct.2
    · intro e' member
      have other : e'.1 ≠ e.1 := by
        intro same
        exact distinct.1 (List.mem_map.mpr ⟨e', member, same⟩)
      rw [Keyed.get?_insert, if_neg other]
      exact fresh e' (List.mem_cons_of_mem _ member)
    · exact fun e' member => own e' (List.mem_cons_of_mem _ member)
    · exact fun e' member => values e' (List.mem_cons_of_mem _ member)
    · intro q r known
      rw [Keyed.get?_insert] at known
      by_cases same : q = e.1
      · rw [if_pos same] at known
        cases known
        exact values e here
      · rw [if_neg same] at known
        exact plain q r known

end Entries

/-- Where neither the values nor the gaps of a template can open a placeholder, one replacement after another, in any
    order of the entries, ends with the rendered text. -/
theorem replaceEach_eq_render {template first : Bytes} {parts : List (String × Bytes)} (cut : Cut template first parts)
    (unopened : Unopened first) (gaps : ∀ e ∈ parts, Unopened e.2) {batch : Batch}
    (own : ∀ p ∈ batch.keys, p ∈ find template) (plain : ∀ e ∈ batch.entries, '{' ∉ e.2.value.toList)
    {order : List (String × Reference)} (perm : order.Perm batch.entries) :
    replaceEach order template = (render template batch).value.text := by
  have distinct : (batch.entries.map (·.1)).Nodup := batch.ascending.nodup_keys
  have distinct' : (order.map (·.1)).Nodup := (perm.map _).nodup_iff.mpr distinct
  have whole : insertEach ∅ order = batch := by
    apply Keyed.ext_get?
    intro key
    rw [get?_insertEach distinct', lookup_perm distinct' perm, Keyed.get?_empty, Option.or_none]
    rfl
  have written : ∀ e ∈ order, Written (encode e.1) := fun e member =>
    written_of_mem_find (own e.1 (List.mem_map.mpr ⟨e, perm.mem_iff.mp member, rfl⟩))
  have values : ∀ e ∈ order, '{' ∉ e.2.value.toList := fun e member => plain e (perm.mem_iff.mp member)
  have none : Plain ∅ := by
    intro q r known
    cases known
  have start : template = filled ∅ first parts := cut.1
  calc replaceEach order template
      = replaceEach order (filled ∅ first parts) := by rw [← start]
    _ = filled (insertEach ∅ order) first parts :=
        replaceEach_filled distinct' (fun _ _ => rfl) written values none cut.written unopened gaps
    _ = filled batch first parts := by rw [whole]
    _ = (render template batch).value.text := (cut.substitute batch).symm

theorem replaceEach_eq_render_two_values :
    let template := encode "a {{s!k}}{{t!k}} \x7b"
    let batch : Batch := (Keyed.insert ∅ "{{s!k}}" ⟨"s", "k", "", "t!k\x7d\x7d"⟩).insert "{{t!k}}" ⟨"t", "k", "", "y"⟩
    Cut template (encode "a ") [("{{s!k}}", []), ("{{t!k}}", encode " \x7b")] ∧
      replaceEach batch.entries.reverse template = (render template batch).value.text ∧
      (render template batch).value.text = encode "a t!k\x7d\x7dy \x7b" := by
  intro template batch
  have cut : Cut template (encode "a ") [("{{s!k}}", []), ("{{t!k}}", encode " \x7b")] :=
    ⟨by decide +kernel, by decide +kernel⟩
  have same : replaceEach batch.entries.reverse template = (render template batch).value.text :=
    replaceEach_eq_render cut (by decide +kernel) (by decide +kernel) (by decide +kernel) (by decide +kernel)
      (List.reverse_perm _)
  exact ⟨cut, same, by decide +kernel⟩

end SecretTemplate.Placeholder
