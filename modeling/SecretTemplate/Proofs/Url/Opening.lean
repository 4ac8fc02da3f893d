import SecretTemplate.Proofs.Text.Trimming
import SecretTemplate.Proofs.Url.Authority
import SecretTemplate.Proofs.Url.Continuing

namespace SecretTemplate.Url

open Text (drop_length_takeWhile neg_of_head_dropWhile)

def readClean (cs : List Char) : Except UrlError Url :=
  match scheme? cs with
  | some (scheme, rest) => readAfterScheme scheme rest
  | none => .error .noScheme

theorem parse_eq (s : String) : parse s = readClean (clean s.toList) := rfl

theorem scheme?_eq_some_iff {cs rest : List Char} {scheme : String} :
    scheme? cs = some (scheme, rest) ↔ ∃ name, cs = name ++ ':' :: rest ∧ (∀ c ∈ name, isSchemeChar c = true) ∧
      name.head?.any Char.isAlpha = true ∧ scheme = .ofList (name.map Char.toLower) := by
  constructor
  · intro found
    unfold scheme? at found
    split at found
    · rename_i rest' after
      dsimp only at found
      split at found
      · rename_i letter
        cases found
        refine ⟨cs.takeWhile isSchemeChar, ?_, fun c member => List.mem_takeWhile_imp member, letter, rfl⟩
        rw [← after, List.takeWhile_append_dropWhile]
      · cases found
    · cases found
  · rintro ⟨name, rfl, all, letter, rfl⟩
    have stops : ¬ isSchemeChar ':' = true := by decide
    unfold scheme?
    rw [List.dropWhile_append_of_pos all, List.takeWhile_append_of_pos all, List.dropWhile_cons_of_neg stops,
      List.takeWhile_cons_of_neg stops, List.append_nil]
    simp only [letter, if_true]

theorem readAfterScheme_web {scheme : String} (web : scheme = "http" ∨ scheme = "https") (cs : List Char) :
    readAfterScheme scheme cs = readFromAuthority scheme (cs.dropWhile isSlash) := by
  rcases web with rfl | rfl <;> rfl

theorem isNetworked_web {scheme : String} (web : scheme = "http" ∨ scheme = "https") : isNetworked scheme = true := by
  rcases web with rfl | rfl <;> decide

theorem readMarked_nil (u : Url) : readMarked u [] = { u with query := none, fragment := none } := rfl

theorem readMarked_of_mark {u : Url} {c : Char} {cs : List Char} (mark : endsPath c = true) :
    (readMarked u (c :: cs)).query ≠ none ∨ (readMarked u (c :: cs)).fragment ≠ none := by
  simp only [endsPath, Bool.or_eq_true, beq_iff_eq] at mark
  unfold readMarked
  rcases mark with rfl | rfl
  · cases cut : Text.splitFirst '#' ('?' :: cs) with
    | none => exact .inl (Option.some_ne_none _)
    | some parts =>
      right
      dsimp only
      split <;> exact Option.some_ne_none _
  · exact .inr (Option.some_ne_none _)

theorem readPath_of_mark {u : Url} {cs : List Char} (marked : ∃ c ∈ cs, endsPath c = true) (rest : List Char) :
    (readPath u [] (cs ++ rest)).query ≠ none ∨ (readPath u [] (cs ++ rest)).fragment ≠ none := by
  unfold readPath
  dsimp only
  rw [drop_length_takeWhile]
  cases after : (cs ++ rest).dropWhile (!endsPath ·) with
  | nil =>
    obtain ⟨c, member, mark⟩ := marked
    have unmarked := List.dropWhile_eq_nil_iff.mp after c (List.mem_append_left _ member)
    simp [mark] at unmarked
  | cons c more =>
    have stops : (!endsPath c) = false := neg_of_head_dropWhile (by rw [after]; rfl)
    exact readMarked_of_mark (by simpa using stops)

theorem readPath_of_unmarked {u : Url} (web : u.scheme = "http" ∨ u.scheme = "https") {cs : List Char}
    (unmarked : ∀ c ∈ cs, endsPath c = false) :
    readPath u [] cs = { u with path := .segments (Path.read true false [] cs), query := none, fragment := none } := by
  have whole : cs.takeWhile (!endsPath ·) = cs :=
    List.takeWhile_eq_self_iff.mpr fun c member => by simp [unmarked c member]
  have webbed : decide (u.scheme = "file") = false := by
    rcases web with scheme | scheme <;> rw [scheme] <;> decide
  unfold readPath
  simp only [whole, List.drop_length, isNetworked_web web, webbed, Bool.true_or, Bool.not_true, Bool.and_false,
    Bool.false_eq_true, if_false, readMarked_nil]

/-- A text that begins like a URL of the web, cut where the authority ends. Whatever path goes on there, the same is
    read in front of it. -/
structure Opening (cs : List Char) where
  scheme : String
  web : scheme = "http" ∨ scheme = "https"
  front : List Char
  tail : List Char
  base : Except UrlError Url
  whole : cs = front ++ tail
  unmarked : ∀ c ∈ front, endsPath c = false
  starts : ∀ c ∈ tail.head?, endsAuthority true c = true
  schemed : ∀ u, base = .ok u → u.scheme = scheme
  reads : ∀ rest, (∀ c ∈ rest.head?, c = '/') →
    readClean (cs ++ rest) = base.map fun u => readPath u [] (tail ++ rest)

theorem unmarked_of_isSchemeChar {c : Char} (plain : isSchemeChar c = true) : endsPath c = false := by
  rw [Bool.eq_false_iff]
  intro mark
  simp only [endsPath, Bool.or_eq_true, beq_iff_eq] at mark
  rcases mark with rfl | rfl <;> exact absurd plain (by decide)

theorem unmarked_of_isSlash {c : Char} (slash : isSlash c = true) : endsPath c = false := by
  simp only [isSlash, Bool.or_eq_true, beq_iff_eq] at slash
  rcases slash with rfl | rfl <;> rfl

theorem unmarked_of_inside {c : Char} (inside : endsAuthority true c = false) : endsPath c = false := by
  simp only [endsAuthority, Bool.or_eq_false_iff, endsPath] at inside ⊢
  exact ⟨inside.1.1.2, inside.1.2⟩

def Opening.ofParts {name rest : List Char} (schemed : ∀ c ∈ name, isSchemeChar c = true)
    (letter : name.head?.any Char.isAlpha = true)
    (web : String.ofList (name.map Char.toLower) = "http" ∨ String.ofList (name.map Char.toLower) = "https")
    (hosted : rest.dropWhile isSlash ≠ []) : Opening (name ++ ':' :: rest) where
  scheme := .ofList (name.map Char.toLower)
  web := web
  front := name ++ ':' :: (rest.takeWhile isSlash ++ (rest.dropWhile isSlash).takeWhile (!endsAuthority true ·))
  tail := (rest.dropWhile isSlash).dropWhile (!endsAuthority true ·)
  base := (readAuthority { scheme := .ofList (name.map Char.toLower), path := .segments [] } true
    ((rest.dropWhile isSlash).takeWhile (!endsAuthority true ·))).map (·.1)
  whole := by
    rw [List.append_assoc, List.cons_append, List.append_assoc, List.takeWhile_append_dropWhile,
      List.takeWhile_append_dropWhile]
  unmarked := by
    intro c member
    simp only [List.mem_append, List.mem_cons] at member
    rcases member with inName | rfl | slash | inside
    · exact unmarked_of_isSchemeChar (schemed c inName)
    · rfl
    · exact unmarked_of_isSlash (List.mem_takeWhile_imp slash)
    · apply unmarked_of_inside
      simpa using List.mem_takeWhile_imp inside
  starts := by
    intro c first
    simpa using neg_of_head_dropWhile first
  schemed := by
    intro u read
    generalize authority : readAuthority _ true _ = found at read
    cases found with
    | error e => cases read
    | ok found =>
      obtain ⟨base, left⟩ := found
      cases read
      exact (scheme_readAuthority authority).trans rfl
  reads := by
    intro more slashed
    have scheme : scheme? (name ++ ':' :: rest ++ more) = some (.ofList (name.map Char.toLower), rest ++ more) :=
      scheme?_eq_some_iff.mpr ⟨name, by rw [List.append_assoc, List.cons_append], schemed, letter, rfl⟩
    have dropped : (rest ++ more).dropWhile isSlash = rest.dropWhile isSlash ++ more := by
      rw [List.dropWhile_append, if_neg]
      simpa using hosted
    unfold readClean
    rw [scheme]
    dsimp only
    rw [readAfterScheme_web web, dropped]
    have cut : rest.dropWhile isSlash ++ more =
        (rest.dropWhile isSlash).takeWhile (!endsAuthority true ·) ++
          ((rest.dropWhile isSlash).dropWhile (!endsAuthority true ·) ++ more) := by
      rw [← List.append_assoc, List.takeWhile_append_dropWhile]
    rw [cut]
    apply readFromAuthority_append (isNetworked_web web)
    · intro c inside
      simpa using List.mem_takeWhile_imp inside
    · intro c first
      cases tail : (rest.dropWhile isSlash).dropWhile (!endsAuthority true ·) with
      | nil =>
        rw [tail, List.nil_append] at first
        rw [slashed c first]
        decide
      | cons d tail' =>
        rw [tail] at first
        cases first
        have stops : (!endsAuthority true c) = false := neg_of_head_dropWhile (by rw [tail]; rfl)
        simpa using stops

theorem exists_host {scheme : String} (web : scheme = "http" ∨ scheme = "https") {cs : List Char} {u : Url}
    (read : readAfterScheme scheme cs = .ok u) : ∃ c ∈ cs, isSlash c = false := by
  by_contra hostless
  have all : cs.dropWhile isSlash = [] := by
    rw [List.dropWhile_eq_nil_iff]
    intro c member
    by_contra other
    exact hostless ⟨c, member, (Bool.not_eq_true _).mp other⟩
  have networked := isNetworked_web web
  have unread : readFromAuthority scheme ([] ++ []) = _ := readFromAuthority_append networked (by simp) (by simp)
  have failed : readAuthority { scheme, path := .segments [] } true [] = .error .emptyHost := readHost_nil networked
  rw [readAfterScheme_web web, all, ← List.append_nil [], unread, failed] at read
  cases read

theorem exists_opening {cs slashes kept dropped : List Char} {u : Url} (slashed : ∀ c ∈ slashes, c = '/')
    (whole : cs ++ slashes = kept ++ dropped) (read : readClean kept = .ok u)
    (web : u.scheme = "http" ∨ u.scheme = "https") : ∃ o : Opening cs, o.scheme = u.scheme := by
  unfold readClean at read
  split at read
  · rename_i scheme rest found
    have same := scheme_readAfterScheme read
    rw [same] at web
    obtain ⟨host, inside, plain⟩ := exists_host web read
    obtain ⟨name, rfl, schemed, letter, rfl⟩ := scheme?_eq_some_iff.mp found
    have free : ':' ∉ name := fun member => absurd (schemed _ member) (by decide)
    have colon : ':' ∈ cs := by
      have member : ':' ∈ cs ++ slashes := by
        rw [whole]
        simp
      rcases List.mem_append.mp member with member | member
      · exact member
      · cases slashed _ member
    -- The first colon is the same in both texts, so the scheme is too.
    obtain ⟨name', rest', rfl, free'⟩ := List.eq_append_cons_of_mem colon
    have cut := Text.splitFirst_eq_some.mpr ⟨whole.trans (List.append_assoc ..), free⟩
    rw [Text.splitFirst_eq_some.mpr ⟨List.append_assoc .., free'⟩] at cut
    simp only [Option.some.injEq, Prod.mk.injEq] at cut
    obtain ⟨rfl, after⟩ := cut
    have after : rest' ++ slashes = rest ++ dropped := after
    have hosted : rest'.dropWhile isSlash ≠ [] := by
      intro bare
      have member : host ∈ rest' ++ slashes := by
        rw [after]
        exact List.mem_append_left _ inside
      rcases List.mem_append.mp member with member | member
      · rw [List.dropWhile_eq_nil_iff.mp bare host member] at plain
        cases plain
      · rw [slashed host member] at plain
        cases plain
    exact ⟨.ofParts schemed letter web hosted, same.symm⟩
  · cases read

end SecretTemplate.Url
