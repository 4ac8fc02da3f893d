import SecretTemplate.Proofs.Engine.Documents
import SecretTemplate.Proofs.Keyed.Entrywise

namespace SecretTemplate

/-- The same text, or two texts that are there and are redacted in the same way. -/
def Text.Alike (a b : String) : Prop := a = b ∨ a ≠ "" ∧ b ≠ "" ∧ Text.redact a = Text.redact b

theorem Text.Alike.refl (a : String) : Text.Alike a a := .inl rfl

theorem Text.Alike.redact_eq {a b : String} (alike : Text.Alike a b) : Text.redact a = Text.redact b := by
  rcases alike with rfl | ⟨-, -, same⟩
  · rfl
  · exact same

theorem Text.Alike.isEmpty_eq {a b : String} (alike : Text.Alike a b) : a.isEmpty = b.isEmpty := by
  rcases alike with rfl | ⟨left, right, -⟩
  · rfl
  · rw [Bool.eq_false_iff.mpr (mt String.isEmpty_iff.mp left), Bool.eq_false_iff.mpr (mt String.isEmpty_iff.mp right)]

/-- The same failure, or results that are related. -/
inductive Agree {ε α β : Type} (R : α → β → Prop) : Except ε α → Except ε β → Prop
  | error (cause : ε) : Agree R (.error cause) (.error cause)
  | ok {a : α} {b : β} (related : R a b) : Agree R (.ok a) (.ok b)

theorem Agree.refl {ε α : Type} {R : α → α → Prop} (same : ∀ a, R a a) (x : Except ε α) : Agree R x x := by
  cases x with
  | error cause => exact .error cause
  | ok a => exact .ok (same a)

theorem Agree.map {ε α β γ δ : Type} {R : α → β → Prop} {S : γ → δ → Prop} {x : Except ε α} {y : Except ε β}
    (agree : Agree R x y) {f : α → γ} {g : β → δ} (carries : ∀ a b, R a b → S (f a) (g b)) :
    Agree S (x.map f) (y.map g) := by
  cases agree with
  | error cause => exact .error cause
  | ok related => exact .ok (carries _ _ related)

namespace Json

inductive Alike : Json → Json → Prop
  | refl (value : Json) : Alike value value
  | scalar {a b : Json} {x y : String} (left : a.scalar? = some x) (right : b.scalar? = some y)
      (texts : Text.Alike x y) : Alike a b
  | array {items items' : List Json} (each : List.Forall₂ Alike items items') : Alike (.array items) (.array items')
  | object {members members' : List (String × Json)} (names : members.map (·.1) = members'.map (·.1))
      (each : List.Forall₂ Alike (members.map (·.2)) (members'.map (·.2))) : Alike (.object members) (.object members')

end Json

namespace Engine

variable {shape : Shape} {data data' : Json} {path key : String}

structure Document.Alike (a b : Document) : Prop where
  shape : a.shape = b.shape
  fields : Entrywise Json.Alike a.fields b.fields

theorem entrywise_refl (members : List (String × Json)) : Entrywise Json.Alike members members :=
  List.forall₂_same.mpr fun _ _ => ⟨rfl, .refl _⟩

theorem rel_fields (alike : Json.Alike data data') :
    Option.Rel (Entrywise Json.Alike) (fields? data) (fields? data') := by
  cases alike with
  | refl =>
    cases data with
    | object members => exact .some (entrywise_refl members)
    | _ => exact .none
  | scalar left right =>
    cases data with
    | object => cases left
    | _ =>
      cases data' with
      | object => cases right
      | _ => exact .none
  | array => exact .none
  | object names each => exact .some (.of_keys names each)

theorem agree_ofData (alike : Json.Alike data data') (shape : Shape) (path : String) :
    Agree Document.Alike (Document.ofData shape path data) (Document.ofData shape path data') := by
  have outer := rel_fields alike
  cases shape with
  | flat =>
    rw [ofData_flat, ofData_flat]
    generalize fields? data = x, fields? data' = y at outer
    cases outer with
    | none => exact .error _
    | some fields => exact .ok ⟨rfl, fields⟩
  | enveloped =>
    rw [ofData_enveloped, ofData_enveloped]
    generalize fields? data = x, fields? data' = y at outer
    cases outer with
    | none => exact .error _
    | @some members members' each =>
      have envelope := each.lookup Reference.envelopeField
      dsimp only
      generalize lookup Reference.envelopeField members = x, lookup Reference.envelopeField members' = y at envelope
      cases envelope with
      | none => exact .error _
      | @some a b inner =>
        have fields := rel_fields inner
        dsimp only [Option.bind_some]
        generalize fields? a = x, fields? b = y at fields
        cases fields with
        | none => exact .error _
        | some fields => exact .ok ⟨rfl, fields⟩

theorem agree_field {a b : Document} (alike : a.Alike b) (path key : String) :
    Agree Text.Alike (a.field path key) (b.field path key) := by
  have found := alike.fields.lookup key
  generalize here : lookup key a.fields = x, there : lookup key b.fields = y at found
  cases found with
  | none =>
    unfold Document.field
    rw [here, there]
    exact .error _
  | some values =>
    cases values with
    | refl value =>
      have same : b.field path key = a.field path key := by
        unfold Document.field
        rw [here, there]
      rw [same]
      exact .refl Text.Alike.refl _
    | scalar left right texts =>
      rw [field_of_scalar here left, field_of_scalar there right]
      exact .ok texts
    | array =>
      unfold Document.field
      rw [here, there]
      exact .error _
    | object =>
      unfold Document.field
      rw [here, there]
      exact .error _

end Engine

namespace Resolution

open Engine (Shape Document)

abbrev DocumentsAlike : Except StoreError (Option Json) → Except StoreError (Option Json) → Prop :=
  Agree (Option.Rel Json.Alike)

abbrev OutcomesAlike : Outcome → Outcome → Prop := Agree (Option.Rel Text.Alike)

variable {answer answer' : Except StoreError (Option Json)}

theorem agree_fieldText (alike : DocumentsAlike answer answer') (shape : Shape) (r : Reference) :
    Agree Text.Alike (fieldText shape r answer) (fieldText shape r answer') := by
  cases alike with
  | error cause => exact .error _
  | ok related =>
    cases related with
    | none => exact .error _
    | @some data data' alike =>
      have documents := Engine.agree_ofData alike shape r.storePath
      simp only [fieldText]
      generalize Document.ofData shape r.storePath data = x, Document.ofData shape r.storePath data' = y at documents
      cases documents with
      | error cause => exact .error cause
      | ok documents => exact Engine.agree_field documents r.storePath r.fieldKey

theorem agree_outcome (alike : DocumentsAlike answer answer') (shape : Shape) (r : Reference) :
    OutcomesAlike (outcome shape r answer) (outcome shape r answer') := by
  refine (agree_fieldText alike shape r).map fun text text' texts => ?_
  rw [texts.isEmpty_eq]
  cases text'.isEmpty with
  | true => exact .none
  | false => exact .some texts

theorem outcomeNotices_eq (alike : DocumentsAlike answer answer') (shape : Shape) (r : Reference) :
    outcomeNotices shape r answer = outcomeNotices shape r answer' := by
  have outcomes := agree_outcome alike shape r
  unfold outcomeNotices
  generalize outcome shape r answer = x, outcome shape r answer' = y at outcomes
  cases outcomes with
  | error cause => rfl
  | ok values =>
    cases values with
    | none => rfl
    | some texts =>
      dsimp only
      rw [texts.redact_eq]

end Resolution

end SecretTemplate
