import SecretTemplate.Engine.Shape
import SecretTemplate.Proofs.Placeholder.Extraction
import SecretTemplate.Proofs.Reference.Delimiters

namespace SecretTemplate.Placeholder

open Text.Utf8

theorem unwrap_braced {lead token trail : List Char} (leading : ∀ c ∈ lead, Text.isBlank c = true)
    (inner : ∀ c ∈ token, Text.isBlank c = false ∧ c ≠ '{' ∧ c ≠ '}') (trailing : ∀ c ∈ trail, Text.isBlank c = true) :
    Reference.unwrap (['{', '{'] ++ (lead ++ token ++ trail) ++ ['}', '}']) = token := by
  have plain := ne_brace_of_body leading inner trailing
  have opens : (lead ++ token ++ trail).head? ≠ some '{' := fun first => (plain '{' (List.mem_of_head? first)).1 rfl
  have closes : (lead ++ token ++ trail).getLast? ≠ some '}' :=
    fun last => (plain '}' (List.mem_of_getLast? last)).2 rfl
  rw [Reference.unwrap_between opens closes]
  exact Text.strip_between leading (fun c member => (inner c member).1) trailing

theorem unwrap_of_mem_find {template : Bytes} {p : String} (member : p ∈ find template) :
    ∀ c ∈ Reference.unwrap p.toList, isTokenChar c = true := by
  obtain ⟨lead, token, trail, leading, inner, trailing, span⟩ := written_of_mem_find member
  rw [← encode_braced] at span
  rw [encode_injective span, String.toList_ofList, unwrap_braced leading inner trailing]
  exact fun c inside => isTokenChar_iff.mpr (inner c inside)

theorem storePath_of_mem_find {template : Bytes} {p : String} {r : Reference} (member : p ∈ find template)
    (parsed : Reference.parse p = .ok r) : ∀ c ∈ r.storePath.toList, isTokenChar c = true := by
  have tokens := unwrap_of_mem_find member
  obtain ⟨-, -, -, -, rest, whole, -⟩ := Reference.spells_of_parseBare parsed
  exact fun c inside => tokens c (whole ▸ List.mem_append_left _ inside)

theorem tokens_readPath {path : String} (tokens : ∀ c ∈ path.toList, isTokenChar c = true) (shape : Engine.Shape) :
    ∀ c ∈ (shape.readPath path).toList, isTokenChar c = true := by
  have clean : ∀ c ∈ Engine.cleanChars path.toList, isTokenChar c = true := fun c inside =>
    tokens c (Text.mem_of_mem_strip (Text.mem_of_mem_strip inside))
  cases shape with
  | flat =>
    intro c inside
    rw [Engine.Shape.readPath, Engine.clean, String.toList_ofList] at inside
    exact clean c inside
  | enveloped =>
    have data : ∀ c ∈ "/data/".toList, isTokenChar c = true := List.all_eq_true.mp (by decide)
    intro c inside
    rw [Engine.Shape.readPath, Engine.dataPath, Engine.mountSplit] at inside
    cases split : Text.splitFirst '/' (Engine.cleanChars path.toList) with
    | none =>
      simp only [split, String.toList_ofList, List.mem_append] at inside
      rcases inside with inside | inside
      · exact clean c inside
      · exact data c ((show "/data".toList <+: "/data/".toList from ⟨['/'], rfl⟩).subset inside)
    | some halves =>
      obtain ⟨mount, rest⟩ := halves
      obtain ⟨whole, -⟩ := Text.splitFirst_eq_some.mp split
      rw [whole] at clean
      simp only [split, String.toList_ofList, List.mem_append] at inside
      rcases inside with (inside | inside) | inside
      · exact clean c (List.mem_append_left _ inside)
      · exact data c inside
      · exact clean c (List.mem_append_right _ (List.mem_cons_of_mem _ inside))

def ReadFor (path : String) : Prop :=
  ∃ template p r, ∃ shape : Engine.Shape, p ∈ find template ∧ Reference.parse p = .ok r ∧
    shape.readPath r.storePath = path

theorem ReadFor.tokens {path : String} (read : ReadFor path) : ∀ c ∈ path.toList, isTokenChar c = true := by
  obtain ⟨template, p, r, shape, member, parsed, rfl⟩ := read
  exact tokens_readPath (storePath_of_mem_find member parsed) shape

end SecretTemplate.Placeholder
