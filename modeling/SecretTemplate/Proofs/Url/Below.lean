import SecretTemplate.Proofs.Url.Opening

namespace SecretTemplate.Url

open Url.Path (Literal passed)
open Text (dropEnd dropEnd_eq_self_iff dropWhile_append_of_head filter_strip strip)

def isUnseen (c : Char) : Bool := c.toNat ≤ 0x20

def isUnbroken (c : Char) : Bool := c != '\t' && c != '\n' && c != '\r'

theorem unseen_of_broken (c : Char) (broken : isUnbroken c = false) : isUnseen c = true := by
  simp only [isUnbroken, Bool.and_eq_false_iff, bne_eq_false_iff_eq] at broken
  rcases broken with (rfl | rfl) | rfl <;> rfl

def cleanFront (cs : List Char) : List Char := (cs.filter isUnbroken).dropWhile isUnseen

/-- Nothing is dropped at the end of a text but tabs and line ends. -/
def Unpadded (cs : List Char) : Prop := ∀ c ∈ (cs.filter isUnbroken).getLast?, isUnseen c = false

variable {cs rest more : List Char}

theorem filter_unbroken (cs : List Char) (visible : ∀ c ∈ rest, isUnseen c = false) :
    (cs ++ rest).filter isUnbroken = cs.filter isUnbroken ++ rest := by
  rw [List.filter_append, List.append_cancel_left_eq, List.filter_eq_self]
  intro c member
  by_contra broken
  have unseen := unseen_of_broken c ((Bool.not_eq_true _).mp broken)
  rw [visible c member] at unseen
  cases unseen

theorem clean_append (cs : List Char) (visible : ∀ c ∈ rest, isUnseen c = false) :
    clean (cs ++ rest) = dropEnd isUnseen (cleanFront cs ++ rest) := by
  have stripped : clean (cs ++ rest) = strip isUnseen ((cs ++ rest).filter isUnbroken) :=
    filter_strip unseen_of_broken (cs ++ rest)
  rw [stripped, filter_unbroken cs visible, strip, dropWhile_append_of_head, cleanFront]
  intro c first
  exact visible c (List.mem_of_head? first)

theorem clean_append_of_unpadded (visible : ∀ c ∈ rest, isUnseen c = false) (unpadded : Unpadded (cs ++ rest)) :
    clean (cs ++ rest) = cleanFront cs ++ rest := by
  rw [clean_append cs visible, dropEnd_eq_self_iff]
  intro c last
  apply unpadded c
  have split := List.takeWhile_append_dropWhile (p := isUnseen) (l := cs.filter isUnbroken)
  rw [filter_unbroken cs visible, ← split, List.append_assoc, List.getLast?_append]
  rw [cleanFront, Option.mem_def] at last
  rw [last]
  rfl

theorem unpadded_append (cs : List Char) (some : rest ≠ []) (visible : ∀ c ∈ rest, isUnseen c = false) :
    Unpadded (cs ++ rest) := by
  intro c last
  rw [filter_unbroken cs visible, List.getLast?_append, List.getLast?_eq_some_getLast some] at last
  cases last
  exact visible _ (List.getLast_mem some)

theorem mem_cleanFront {c : Char} (visible : isUnseen c = false) : c ∈ cleanFront cs ↔ c ∈ cs := by
  have unbroken : isUnbroken c = true := by
    by_contra broken
    rw [unseen_of_broken c ((Bool.not_eq_true _).mp broken)] at visible
    cases visible
  constructor
  · intro member
    exact List.mem_of_mem_filter ((List.dropWhile_suffix _).subset member)
  · intro member
    exact Text.mem_dropWhile visible (List.mem_filter.mpr ⟨member, unbroken⟩)

theorem dropEnd_slashes_iff : dropEnd (· == '/') cs = cs ↔ ¬ ['/', '/'] <:+ cs ++ ['/'] := by
  rw [dropEnd_eq_self_iff]
  rcases cs.eq_nil_or_concat with rfl | ⟨front, c, rfl⟩
  · exact iff_of_true (by simp) (by decide)
  · rw [← List.reverse_prefix]
    simpa [List.cons_prefix_cons] using ne_comm

theorem literal_nil : Literal [] where
  unescaped := by simp
  slashed := by simp
  undotted := by decide

theorem unmarked_of_literal (literal : Literal more) : ∀ c ∈ '/' :: more, endsPath c = false := by
  intro c member
  rcases List.mem_cons.mp member with rfl | member
  · rfl
  · rw [Bool.eq_false_iff]
    intro mark
    simp only [endsPath, Bool.or_eq_true, beq_iff_eq] at mark
    have plain := literal.unescaped c member
    rcases mark with rfl | rfl <;> exact absurd plain (by decide)

theorem visible_of_literal (literal : Literal more) : ∀ c ∈ '/' :: more, isUnseen c = false := by
  intro c member
  rcases List.mem_cons.mp member with rfl | member
  · rfl
  · have plain := literal.unescaped c member
    simp only [Part.escapes, isControl, Bool.or_eq_false_iff, decide_eq_false_iff_not] at plain
    obtain ⟨⟨control, -⟩, excluded⟩ := plain
    rw [isUnseen, decide_eq_false_iff_not]
    intro small
    have blank : c = ' ' := Char.toNat_inj.mp (show c.toNat = 0x20 by omega)
    rw [blank] at excluded
    exact absurd excluded (by decide)

theorem parse_append {front : String} (literal : Literal more) :
    parse (front ++ .ofList ('/' :: more)) = readClean (cleanFront front.toList ++ '/' :: more) := by
  have visible := visible_of_literal literal
  rw [parse_eq, String.toList_append, String.toList_ofList,
    clean_append_of_unpadded visible (unpadded_append _ (by simp) visible)]

structure Below (u : Url) (rest : String) (v : Url) : Prop where
  scheme : v.scheme = u.scheme
  host : v.host = u.host
  port : v.port = u.port
  query : v.query = none
  fragment : v.fragment = none
  path : v.path.text true = .ofList (dropEnd (· == '/') (u.path.text true).toList) ++ rest

namespace Opening

variable {u : Url} (o : Opening cs)

/-- What stands in front of a path is the server of `u` and the path of `u` without the slashes at its end. -/
def Leads (u : Url) : Prop :=
  ∃ base, o.base = .ok base ∧ base.host = u.host ∧ base.port = u.port ∧ (∀ c ∈ o.tail, endsPath c = false) ∧
    (Path.text true (.segments (passed o.tail))).toList = dropEnd (· == '/') (u.path.text true).toList

theorem starts_of_unmarked (unmarked : ∀ c ∈ o.tail, endsPath c = false) : ∀ c ∈ o.tail.head?, c = '/' ∨ c = '\\' := by
  intro c first
  have plain := unmarked c (List.mem_of_head? first)
  have stops := o.starts c first
  simp only [endsPath, Bool.or_eq_false_iff, beq_eq_false_iff_ne] at plain
  simp only [endsAuthority, Bool.true_and, Bool.or_eq_true, beq_iff_eq, plain.1, plain.2, or_false] at stops
  exact stops

theorem exists_base {v : Url} (slashed : ∀ c ∈ rest.head?, c = '/') (read : readClean (cs ++ rest) = .ok v) :
    ∃ base, o.base = .ok base ∧ v = readPath base [] (o.tail ++ rest) := by
  rw [o.reads rest slashed] at read
  cases known : o.base with
  | error e =>
    rw [known] at read
    cases read
  | ok base =>
    rw [known] at read
    exact ⟨base, rfl, (Except.ok.inj read).symm⟩

theorem reads_of_unmarked {base : Url} (known : o.base = .ok base) (unmarked : ∀ c ∈ o.tail, endsPath c = false)
    (slashed : ∀ c ∈ rest.head?, c = '/') (plain : ∀ c ∈ rest, endsPath c = false) :
    readClean (cs ++ rest) = .ok { base with
      path := .segments (Path.read true false [] (o.tail ++ rest)), query := none, fragment := none } := by
  have web : base.scheme = "http" ∨ base.scheme = "https" := by
    rw [o.schemed base known]
    exact o.web
  rw [o.reads rest slashed, known]
  apply congrArg Except.ok
  apply readPath_of_unmarked web
  intro c member
  rcases List.mem_append.mp member with member | member
  · exact unmarked c member
  · exact plain c member

theorem unmarked_of_read {base : Url} (query : (readPath base [] (o.tail ++ rest)).query = none)
    (fragment : (readPath base [] (o.tail ++ rest)).fragment = none) : ∀ c ∈ o.tail, endsPath c = false := by
  intro c member
  by_contra marked
  rcases readPath_of_mark ⟨c, member, (Bool.not_eq_false _).mp marked⟩ rest with some | some
  · exact some query
  · exact some fragment

theorem unmarked_iff : (∀ c ∈ o.tail, endsPath c = false) ↔ '?' ∉ cs ∧ '#' ∉ cs := by
  have inside {c : Char} (mark : endsPath c = true) : c ∈ cs ↔ c ∈ o.tail := by
    conv_lhs => rw [o.whole, List.mem_append]
    apply or_iff_right
    intro front
    rw [o.unmarked c front] at mark
    cases mark
  rw [inside (by decide), inside (by decide)]
  constructor
  · intro unmarked
    exact ⟨fun query => absurd (unmarked _ query) (by decide), fun fragment => absurd (unmarked _ fragment) (by decide)⟩
  · rintro ⟨query, fragment⟩ c member
    rw [Bool.eq_false_iff]
    intro mark
    simp only [endsPath, Bool.or_eq_true, beq_iff_eq] at mark
    rcases mark with rfl | rfl
    · exact query member
    · exact fragment member

theorem leads_iff (same : o.scheme = u.scheme) (literal : Literal more) :
    o.Leads u ↔ ∃ v, readClean (cs ++ '/' :: more) = .ok v ∧ Below u (.ofList ('/' :: more)) v := by
  have slashed : ∀ c ∈ ('/' :: more).head?, c = '/' := fun c first => (Option.some.inj first).symm
  have plain := unmarked_of_literal literal
  constructor
  · rintro ⟨base, known, host, port, unmarked, path⟩
    refine ⟨_, o.reads_of_unmarked known unmarked slashed plain, ?_⟩
    refine ⟨(o.schemed base known).trans same, host, port, rfl, rfl, ?_⟩
    rw [← String.toList_inj, literal.text_read (o.starts_of_unmarked unmarked), String.toList_append,
      String.toList_ofList, String.toList_ofList, path]
  · rintro ⟨v, read, below⟩
    obtain ⟨base, known, rfl⟩ := o.exists_base slashed read
    have unmarked := o.unmarked_of_read below.query below.fragment
    rw [o.reads_of_unmarked known unmarked slashed plain] at read
    rw [← Except.ok.inj read] at below
    refine ⟨base, known, below.host, below.port, unmarked, ?_⟩
    have path := congrArg String.toList below.path
    rw [literal.text_read (o.starts_of_unmarked unmarked), String.toList_append, String.toList_ofList,
      String.toList_ofList, List.append_cancel_right_eq] at path
    exact path

theorem leads_iff_of_read {n : Nat} (read : readClean (cs ++ List.replicate n '/') = .ok u) :
    o.Leads u ↔ (∀ c ∈ o.tail, endsPath c = false) ∧
      ∀ w, readClean (cs ++ ['/']) = .ok w → ¬ ['/', '/'] <:+ (w.path.text true).toList := by
  have slashed : ∀ c ∈ (List.replicate n '/').head?, c = '/' :=
    fun c first => List.eq_of_mem_replicate (List.mem_of_head? first)
  have plain : ∀ c ∈ List.replicate n '/', endsPath c = false := by
    intro c member
    rw [List.eq_of_mem_replicate member]
    rfl
  obtain ⟨base, known, -⟩ := o.exists_base slashed read
  constructor
  · rintro ⟨_, -, -, -, unmarked, path⟩
    refine ⟨unmarked, ?_⟩
    intro w further
    have starts := o.starts_of_unmarked unmarked
    rw [o.reads_of_unmarked known unmarked slashed plain] at read
    rw [o.reads_of_unmarked known unmarked (by simp) (by simp [endsPath])] at further
    cases read
    cases further
    rw [literal_nil.text_read starts, ← dropEnd_slashes_iff, ← Path.dropEnd_text_slashes starts n]
    exact path.symm
  · rintro ⟨unmarked, ends⟩
    have starts := o.starts_of_unmarked unmarked
    have last := ends _ (o.reads_of_unmarked known unmarked (by simp) (by simp [endsPath]))
    rw [literal_nil.text_read starts, ← dropEnd_slashes_iff] at last
    rw [o.reads_of_unmarked known unmarked slashed plain] at read
    cases read
    exact ⟨base, known, rfl, rfl, unmarked, last.symm.trans (Path.dropEnd_text_slashes starts n).symm⟩

end Opening

end SecretTemplate.Url
