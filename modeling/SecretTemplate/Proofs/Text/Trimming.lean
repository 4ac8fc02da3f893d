import Mathlib.Data.List.DropRight
import Mathlib.Data.List.TakeWhile
import SecretTemplate.Text.Trim

namespace SecretTemplate.Text

variable {p : Char → Bool} {c : Char} {cs left right : List Char}

theorem dropEnd_subset (p : Char → Bool) (cs : List Char) : dropEnd p cs ⊆ cs := by
  intro c member
  have kept := (List.dropWhile_suffix p).subset (List.mem_reverse.mp member)
  exact List.mem_reverse.mp kept

theorem mem_of_mem_strip (h : c ∈ strip p cs) : c ∈ cs :=
  (List.dropWhile_suffix p).subset (dropEnd_subset p _ h)

theorem dropEnd_append (left : List Char) (keeps : p c = false) (right : List Char) :
    dropEnd p (left ++ c :: right) = left ++ c :: dropEnd p right := by
  have kept : (right.reverse ++ c :: left.reverse).dropWhile p = right.reverse.dropWhile p ++ c :: left.reverse := by
    rw [List.dropWhile_append]
    split
    · rename_i all
      rw [List.isEmpty_iff.mp all, List.dropWhile_cons_of_neg (by simp [keeps]), List.nil_append]
    · rfl
  unfold dropEnd
  rw [List.reverse_append, List.reverse_cons, List.append_assoc, List.singleton_append, kept]
  simp

theorem dropEnd_append_of_pos (all : ∀ c ∈ right, p c = true) : dropEnd p (left ++ right) = dropEnd p left := by
  unfold dropEnd
  rw [List.reverse_append, List.dropWhile_append_of_pos fun c member => all c (List.mem_reverse.mp member)]

theorem dropWhile_eq_self_iff : cs.dropWhile p = cs ↔ ∀ c ∈ cs.head?, p c = false := by
  cases cs with
  | nil => simp
  | cons c rest => simp [List.dropWhile_eq_self_iff]

theorem dropEnd_eq_self_iff : dropEnd p cs = cs ↔ ∀ c ∈ cs.getLast?, p c = false := by
  rw [dropEnd, List.reverse_eq_iff, dropWhile_eq_self_iff, List.head?_reverse]

theorem neg_of_head_dropWhile (first : c ∈ (cs.dropWhile p).head?) : p c = false :=
  dropWhile_eq_self_iff.mp (List.dropWhile_idempotent p cs) c first

theorem dropWhile_of_neg (none : ∀ c ∈ left, p c = false) : left.dropWhile p = left :=
  dropWhile_eq_self_iff.mpr fun c first => none c (List.mem_of_head? first)

theorem dropEnd_of_neg (none : ∀ c ∈ left, p c = false) : dropEnd p left = left :=
  dropEnd_eq_self_iff.mpr fun c last => none c (List.mem_of_getLast? last)

theorem exists_dropped (p : Char → Bool) (cs : List Char) :
    ∃ dropped, cs = dropEnd p cs ++ dropped ∧ ∀ c ∈ dropped, p c = true :=
  ⟨cs.rtakeWhile p, List.rdropWhile_append_rtakeWhile.symm, fun _ => List.mem_rtakeWhile_imp⟩

theorem strip_padded {lead trail : List Char} (leading : ∀ c ∈ lead, p c = true) (cs : List Char)
    (trailing : ∀ c ∈ trail, p c = true) : strip p (lead ++ cs ++ trail) = strip p cs := by
  rw [strip, List.append_assoc, List.dropWhile_append_of_pos leading, List.dropWhile_append]
  split
  · rename_i blank
    rw [strip, List.isEmpty_iff.mp blank, List.dropWhile_eq_nil_iff.mpr trailing]
  · rw [dropEnd_append_of_pos trailing, strip]

theorem strip_of_neg (kept : ∀ c ∈ left, p c = false) : strip p left = left := by
  rw [strip, dropWhile_of_neg kept, dropEnd_of_neg kept]

theorem strip_between {lead inner trail : List Char} (leading : ∀ c ∈ lead, p c = true)
    (kept : ∀ c ∈ inner, p c = false) (trailing : ∀ c ∈ trail, p c = true) :
    strip p (lead ++ inner ++ trail) = inner := by
  rw [strip_padded leading inner trailing, strip_of_neg kept]

theorem strip_eq_nil_iff : strip p cs = [] ↔ ∀ c ∈ cs, p c = true := by
  rw [← List.dropWhile_eq_nil_iff]
  constructor
  · intro empty
    have all : ∀ c ∈ cs.dropWhile p, p c = true := List.rdropWhile_eq_nil_iff.mp empty
    have starts := dropWhile_eq_self_iff.mp (List.dropWhile_idempotent p cs)
    generalize cs.dropWhile p = rest at all starts
    cases rest with
    | nil => rfl
    | cons c rest =>
      have keeps := starts c rfl
      rw [all c (List.mem_cons_self ..)] at keeps
      cases keeps
  · intro empty
    rw [strip, empty]
    rfl

theorem strip_infix (p : Char → Bool) (cs : List Char) : strip p cs <:+: cs :=
  (List.rdropWhile_prefix p _).isInfix.trans (List.dropWhile_suffix p).isInfix

theorem dropWhile_of_strip (same : strip p cs = cs) : cs.dropWhile p = cs := by
  have front : strip p cs <+: cs.dropWhile p := List.rdropWhile_prefix p _
  rw [same] at front
  exact (List.dropWhile_suffix p).eq_of_length_le front.length_le

theorem strip_eq_self_iff :
    strip p cs = cs ↔ (∀ c ∈ cs.head?, p c = false) ∧ ∀ c ∈ cs.getLast?, p c = false := by
  rw [← dropWhile_eq_self_iff, ← dropEnd_eq_self_iff]
  constructor
  · intro same
    have starts := dropWhile_of_strip same
    rw [strip, starts] at same
    exact ⟨starts, same⟩
  · rintro ⟨starts, ends⟩
    rw [strip, starts, ends]

theorem dropWhile_append_of_head (stops : ∀ c ∈ right.head?, p c = false) :
    (left ++ right).dropWhile p = left.dropWhile p ++ right := by
  rw [List.dropWhile_append]
  split
  · rename_i all
    rw [List.isEmpty_iff.mp all, dropWhile_eq_self_iff.mpr stops, List.nil_append]
  · rfl

theorem drop_length_takeWhile (p : Char → Bool) (cs : List Char) :
    cs.drop (cs.takeWhile p).length = cs.dropWhile p := by
  have whole : ((cs.takeWhile p ++ cs.dropWhile p).drop (cs.takeWhile p).length) = cs.dropWhile p := List.drop_left
  rwa [List.takeWhile_append_dropWhile] at whole

theorem mem_dropWhile (keeps : p c = false) (member : c ∈ cs) : c ∈ cs.dropWhile p := by
  rw [← List.takeWhile_append_dropWhile (p := p) (l := cs)] at member
  rcases List.mem_append.mp member with dropped | kept
  · rw [List.mem_takeWhile_imp dropped] at keeps
    cases keeps
  · exact kept

theorem filter_dropWhile {q : Char → Bool} (covered : ∀ c, q c = false → p c = true) (cs : List Char) :
    (cs.dropWhile p).filter q = (cs.filter q).dropWhile p := by
  induction cs with
  | nil => rfl
  | cons c cs ih =>
    by_cases dropped : p c = true
    · rw [List.dropWhile_cons_of_pos dropped, ih]
      by_cases kept : q c = true
      · rw [List.filter_cons_of_pos kept, List.dropWhile_cons_of_pos dropped]
      · rw [List.filter_cons_of_neg kept]
    · have kept : q c = true := by
        by_contra wrong
        exact dropped (covered c ((Bool.not_eq_true _).mp wrong))
      rw [List.dropWhile_cons_of_neg dropped, List.filter_cons_of_pos kept, List.dropWhile_cons_of_neg dropped]

theorem filter_strip {q : Char → Bool} (covered : ∀ c, q c = false → p c = true) (cs : List Char) :
    (strip p cs).filter q = strip p (cs.filter q) := by
  unfold strip dropEnd
  rw [List.filter_reverse, filter_dropWhile covered, List.filter_reverse, filter_dropWhile covered]

theorem dropEnd_dropEnd (p : Char → Bool) (cs : List Char) : dropEnd p (dropEnd p cs) = dropEnd p cs :=
  List.rdropWhile_idempotent p cs

theorem dropWhile_dropEnd (starts : left.dropWhile p = left) : (dropEnd p left).dropWhile p = dropEnd p left := by
  cases left with
  | nil => rfl
  | cons c rest =>
    have keeps : p c = false := by simpa using List.dropWhile_eq_self_iff.mp starts
    have whole := dropEnd_append (p := p) [] keeps rest
    rw [List.nil_append, List.nil_append] at whole
    rw [whole, List.dropWhile_cons_of_neg (by simp [keeps])]

theorem strip_strip (p : Char → Bool) (cs : List Char) : strip p (strip p cs) = strip p cs := by
  rw [strip, strip, dropWhile_dropEnd (List.dropWhile_idempotent p cs), dropEnd_dropEnd]

end SecretTemplate.Text
