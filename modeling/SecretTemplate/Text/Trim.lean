import SecretTemplate.Text.Blank

namespace SecretTemplate.Text

def dropEnd (p : Char → Bool) (cs : List Char) : List Char :=
  (cs.reverse.dropWhile p).reverse

def strip (p : Char → Bool) (cs : List Char) : List Char :=
  dropEnd p (cs.dropWhile p)

def trim (cs : List Char) : List Char :=
  strip isBlank cs

def splitFirst (sep : Char) : List Char → Option (List Char × List Char)
  | [] => none
  | c :: cs => if c = sep then some ([], cs) else (splitFirst sep cs).map fun (l, r) => (c :: l, r)

def splitAll (sep : Char) : List Char → List (List Char)
  | [] => [[]]
  | c :: cs =>
    if c = sep then [] :: splitAll sep cs
    else match splitAll sep cs with
      | [] => [[c]]
      | part :: parts => (c :: part) :: parts

theorem splitFirst_eq_some {sep : Char} {cs l r : List Char} :
    splitFirst sep cs = some (l, r) ↔ cs = l ++ sep :: r ∧ sep ∉ l := by
  induction cs generalizing l r with
  | nil => simp [splitFirst]
  | cons c cs ih =>
    by_cases h : c = sep
    · subst h
      constructor
      · intro e
        simp only [splitFirst, if_true, Option.some.injEq, Prod.mk.injEq] at e
        obtain ⟨rfl, rfl⟩ := e
        simp
      · rintro ⟨e, free⟩
        cases l with
        | nil => simp_all [splitFirst]
        | cons x xs => simp_all
    · simp only [splitFirst, h, if_false, Option.map_eq_some_iff, Prod.mk.injEq, Prod.exists]
      constructor
      · rintro ⟨a, b, e, rfl, rfl⟩
        obtain ⟨rfl, free⟩ := ih.1 e
        exact ⟨rfl, by simp [free, Ne.symm h]⟩
      · rintro ⟨e, free⟩
        cases l with
        | nil => simp_all
        | cons x xs =>
          simp only [List.cons_append, List.cons.injEq] at e
          obtain ⟨rfl, rfl⟩ := e
          exact ⟨xs, r, ih.2 ⟨rfl, fun m => free (List.mem_cons_of_mem _ m)⟩, rfl, rfl⟩

theorem splitFirst_eq_none {sep : Char} {cs : List Char} : splitFirst sep cs = none ↔ sep ∉ cs := by
  induction cs with
  | nil => simp [splitFirst]
  | cons c cs ih => by_cases h : c = sep <;> simp [splitFirst, h, ih, eq_comm (a := sep)]

end SecretTemplate.Text

namespace String

def trimBlank (s : String) : String :=
  ofList (SecretTemplate.Text.trim s.toList)

def stripChar (c : Char) (s : String) : String :=
  ofList (SecretTemplate.Text.strip (· == c) s.toList)

end String
