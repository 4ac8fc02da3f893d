import SecretTemplate.Proofs.Url.Escapes
import SecretTemplate.Url.Path

namespace SecretTemplate

namespace Text

theorem splitAll_ne_nil (sep : Char) (cs : List Char) : splitAll sep cs ≠ [] := by
  cases cs with
  | nil => exact List.cons_ne_nil _ _
  | cons c cs =>
    unfold splitAll
    split
    · exact List.cons_ne_nil _ _
    · split <;> exact List.cons_ne_nil _ _

theorem flatMap_splitAll {f : Char → List Char} {sep : Char} (kept : f sep = [sep]) (cs : List Char) :
    ((splitAll sep cs).flatMap fun part => sep :: part.flatMap f) = sep :: cs.flatMap f := by
  induction cs with
  | nil => rfl
  | cons c cs ih =>
    unfold splitAll
    split
    · rename_i same
      rw [List.flatMap_cons, ih, same, List.flatMap_nil, List.flatMap_cons, kept]
      rfl
    · cases parts : splitAll sep cs with
      | nil => exact (splitAll_ne_nil sep cs parts).elim
      | cons part parts' =>
        rw [parts, List.flatMap_cons, List.cons_append, List.cons.injEq] at ih
        rw [List.flatMap_cons, List.flatMap_cons, List.flatMap_cons, ← ih.2, List.cons_append, List.append_assoc]

end Text

namespace Url.Path

open Text (splitAll splitAll_ne_nil flatMap_splitAll)

/-- The `..` segments never outnumber those before them, `depth` of which are there already. -/
def Stays (depth : Nat) : List (List Char) → Prop
  | [] => True
  | part :: parts =>
    if isDoubleDot part then 0 < depth ∧ Stays (depth - 1) parts
    else if isSingleDot part then Stays depth parts
    else Stays (depth + 1) parts

theorem stays_mono {depth deeper : Nat} {parts : List (List Char)} (h : Stays depth parts) (le : depth ≤ deeper) :
    Stays deeper parts := by
  induction parts generalizing depth deeper with
  | nil => exact h
  | cons part parts ih =>
    unfold Stays at h ⊢
    split
    · rename_i up
      rw [if_pos up] at h
      exact ⟨by omega, ih h.2 (by omega)⟩
    · rename_i notUp
      rw [if_neg notUp] at h
      split
      · rename_i here
        rw [if_pos here] at h
        exact ih h le
      · rename_i down
        rw [if_neg down] at h
        exact ih h (by omega)

theorem stays_of_plain {parts : List (List Char)}
    (plain : ∀ part ∈ parts, isDoubleDot part = false ∧ isSingleDot part = false) (depth : Nat) :
    Stays depth parts := by
  induction parts generalizing depth with
  | nil => trivial
  | cons part parts ih =>
    obtain ⟨double, single⟩ := plain part (List.mem_cons_self ..)
    unfold Stays
    rw [if_neg (by simp [double]), if_neg (by simp [single])]
    exact ih (fun other member => plain other (List.mem_cons_of_mem _ member)) (depth + 1)

theorem shorten_root (root : String) {names : List String} (nonempty : names ≠ []) :
    ∃ left, shorten (root :: names) = root :: left ∧ names.length ≤ left.length + 1 := by
  unfold shorten
  split
  · exact ⟨names, rfl, by omega⟩
  · refine ⟨names.dropLast, ?_, ?_⟩
    · cases names with
      | nil => exact (nonempty rfl).elim
      | cons name names => rfl
    · rw [List.length_dropLast]
      omega

theorem append_root (root : String) {parts : List (List Char)} {names : List String} (h : Stays names.length parts) :
    ∃ more, append false (root :: names) parts = root :: more ∧ (parts ≠ [] → more ≠ []) := by
  induction parts generalizing names with
  | nil => exact ⟨names, rfl, fun wrong => (wrong rfl).elim⟩
  | cons part parts ih =>
    -- The induction hypothesis, for what stands below the root once this part is read.
    have later (names : List String) (stays : Stays names.length parts) (last : parts = [] → names ≠ []) :
        ∃ more, append false (root :: names) parts = root :: more ∧ (part :: parts ≠ [] → more ≠ []) := by
      obtain ⟨more, whole, some⟩ := ih stays
      refine ⟨more, whole, fun _ => ?_⟩
      by_cases done : parts = []
      · subst done
        exact (List.cons.inj whole).2 ▸ last rfl
      · exact some done
    unfold Stays at h
    unfold append
    dsimp only
    split
    · rename_i up
      rw [if_pos up] at h
      obtain ⟨left, same, length⟩ := shorten_root root (List.ne_nil_of_length_pos h.1)
      rw [same]
      refine later (left ++ if parts.isEmpty then [""] else []) (stays_mono h.2 ?_) fun done => ?_
      · rw [List.length_append]
        omega
      · simp [done]
    · rename_i notUp
      rw [if_neg notUp] at h
      split
      · rename_i here
        rw [if_pos here] at h
        refine later (names ++ if parts.isEmpty then [""] else []) (stays_mono h ?_) fun done => ?_
        · rw [List.length_append]
          omega
        · simp [done]
      · rename_i down
        rw [if_neg down] at h
        refine later (names ++ [_]) (stays_mono h ?_) fun _ => ?_
        · simp
        · simp

theorem append_of_plain {parts : List (List Char)}
    (plain : ∀ part ∈ parts, isDoubleDot part = false ∧ isSingleDot part = false) (names : List String) :
    append false names parts = names ++ parts.map fun part => .ofList (encode .path part) := by
  induction parts generalizing names with
  | nil => exact (List.append_nil _).symm
  | cons part parts ih =>
    obtain ⟨double, single⟩ := plain part (List.mem_cons_self ..)
    have later := ih fun other member => plain other (List.mem_cons_of_mem _ member)
    unfold append
    simp only [double, single, Bool.false_eq_true, if_false, Bool.false_and, Option.getD_none]
    rw [later, List.map_cons, List.append_assoc]
    rfl

theorem toList_text (names : List String) :
    (text true (.segments names)).toList = names.flatMap fun name => '/' :: name.toList := by
  have unguarded : text true (.segments names) = String.join (names.map ("/" ++ ·)) := by
    unfold text
    dsimp only
    split <;> exact String.empty_append
  rw [unguarded, String.toList_join, List.flatMap_map]
  exact List.flatMap_congr fun name _ => String.toList_append

def parts (cs : List Char) : List (List Char) := splitAll '/' (slashes true cs)

theorem slashes_of_notMem {cs : List Char} (absent : '\\' ∉ cs) : slashes true cs = cs := by
  refine (List.map_congr_left fun c member => ?_).trans (List.map_id cs)
  rw [if_neg]
  · rfl
  · rintro rfl
    exact absent member

theorem parts_of_notMem {cs : List Char} (absent : '\\' ∉ cs) : parts cs = splitAll '/' cs := by
  rw [parts, slashes_of_notMem absent]

theorem read_root (cs : List Char) :
    read true false [] ("/v1/".toList ++ cs) = append false ["v1"] (parts cs) := by
  have root : encode .path ['v', '1'] = ['v', '1'] := by decide
  have split : splitAll '/' ("v1/".toList ++ slashes true cs) = ['v', '1'] :: parts cs := rfl
  show append false [] (splitAll '/' ("v1/".toList ++ slashes true cs)) = _
  rw [split, append]
  have names : [String.ofList ['v', '1']] = ["v1"] := rfl
  simp only [root, show isDoubleDot ['v', '1'] = false by decide, show isSingleDot ['v', '1'] = false by decide]
  exact congrArg (append false · (parts cs)) names

theorem toList_text_of_plain {cs : List Char} (slashed : '\\' ∉ cs)
    (plain : ∀ part ∈ splitAll '/' cs, isDoubleDot part = false ∧ isSingleDot part = false) :
    (text true (.segments (read true false [] ("/v1/".toList ++ cs)))).toList = "/v1/".toList ++ encode .path cs := by
  have kept : encodeChar .path '/' = ['/'] := by decide
  rw [read_root, parts_of_notMem slashed, append_of_plain plain, toList_text, List.flatMap_append, List.flatMap_map]
  simp only [String.toList_ofList]
  rw [show ((splitAll '/' cs).flatMap fun part => '/' :: encode .path part) = '/' :: encode .path cs from
    flatMap_splitAll kept cs]
  rfl

theorem text_of_stays {cs : List Char} (stays : Stays 0 (parts cs)) :
    ∃ rest, text true (.segments (read true false [] ("/v1/".toList ++ cs))) = "/v1/" ++ rest := by
  have below : ∃ more, append false ["v1"] (parts cs) = "v1" :: more ∧ (parts cs ≠ [] → more ≠ []) :=
    append_root "v1" stays
  obtain ⟨more, whole, some⟩ := below
  obtain ⟨name, names, rfl⟩ := List.exists_cons_of_ne_nil (some (splitAll_ne_nil _ _))
  refine ⟨.ofList (name.toList ++ names.flatMap fun name => '/' :: name.toList), ?_⟩
  rw [read_root, whole, ← String.toList_inj, toList_text, String.toList_append]
  exact congrArg ("/v1/".toList ++ ·) String.toList_ofList.symm

end Url.Path

end SecretTemplate
