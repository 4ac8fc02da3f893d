import SecretTemplate.Resolution.Fetch

namespace SecretTemplate

namespace Json

def scalar? : Json → Option String
  | .string s => some s
  | .number n => some n.text
  | .bool b => some (if b then "true" else "false")
  | _ => none

end Json

namespace Engine

def fields? : Json → Option (List (String × Json))
  | .object members => some members
  | _ => none

theorem ofData_flat (path : String) (data : Json) :
    Document.ofData .flat path data =
      match fields? data with
      | some fields => .ok ⟨.flat, fields⟩
      | none => .error (.emptyDocument path) := by
  cases data <;> rfl

theorem ofData_enveloped (path : String) (data : Json) :
    Document.ofData .enveloped path data =
      match fields? data with
      | some members =>
        match (lookup Reference.envelopeField members).bind fields? with
        | some fields => .ok ⟨.enveloped, fields⟩
        | none => .error (.malformedEnvelope path)
      | none => .error (.emptyDocument path) := by
  cases data with
  | object members =>
    simp only [Document.ofData, fields?]
    cases lookup Reference.envelopeField members with
    | none => rfl
    | some inner => cases inner <;> rfl
  | _ => rfl

theorem field_of_scalar {document : Document} {key : String} {value : Json} {text : String}
    (found : lookup key document.fields = some value) (scalar : value.scalar? = some text) (path : String) :
    document.field path key = .ok text := by
  unfold Document.field
  rw [found]
  cases value with
  | null => cases scalar
  | array => cases scalar
  | object => cases scalar
  | _ => exact congrArg Except.ok (Option.some.inj scalar)

/-- Under the shape the data are a document with these fields. -/
inductive Shape.Holds : Shape → Json → List (String × Json) → Prop
  | flat (fields : List (String × Json)) : Holds .flat (.object fields) fields
  | enveloped {members fields : List (String × Json)} (inside : lookup "data" members = some (.object fields)) :
      Holds .enveloped (.object members) fields

theorem Shape.Holds.ofData {shape : Shape} {data : Json} {fields : List (String × Json)}
    (holds : shape.Holds data fields) (path : String) : Document.ofData shape path data = .ok ⟨shape, fields⟩ := by
  cases holds with
  | flat => rfl
  | @enveloped members fields inside =>
    have envelope : lookup Reference.envelopeField members = some (.object fields) := inside
    rw [ofData_enveloped]
    simp only [fields?, envelope, Option.bind_some]

end Engine

namespace Resolution

open Engine (Shape Document)

/-- How a fetch ends when this is what stands under the key: null is as good as nothing, and an empty text leaves
    the fallback. -/
inductive Reading (r : Reference) : Option Json → Outcome → Prop
  | text {value : Json} {text : String} (scalar : value.scalar? = some text) (nonempty : text ≠ "") :
      Reading r (some value) (.ok (some text))
  | blank {value : Json} (scalar : value.scalar? = some "") : Reading r (some value) (.ok none)
  | absent : Reading r none (.error (.fieldNotFound r.storePath r.fieldKey))
  | null : Reading r (some .null) (.error (.fieldNotFound r.storePath r.fieldKey))
  | array (items : List Json) : Reading r (some (.array items)) (.error (.unsupportedField r.storePath r.fieldKey))
  | object (members : List (String × Json)) :
      Reading r (some (.object members)) (.error (.unsupportedField r.storePath r.fieldKey))

theorem exists_reading (r : Reference) (member : Option Json) : ∃ ended, Reading r member ended := by
  cases member with
  | none => exact ⟨_, .absent⟩
  | some value =>
    cases scalar : value.scalar? with
    | some text =>
      by_cases empty : text = ""
      · subst empty
        exact ⟨_, .blank scalar⟩
      · exact ⟨_, .text scalar empty⟩
    | none =>
      cases value with
      | null => exact ⟨_, .null⟩
      | array items => exact ⟨_, .array items⟩
      | object members => exact ⟨_, .object members⟩
      | bool => cases scalar
      | number => cases scalar
      | string => cases scalar

variable {shape : Shape} {data : Json} {fields : List (String × Json)} {r : Reference} {ended : Outcome}

theorem outcome_of_holds (holds : shape.Holds data fields) (r : Reference) :
    outcome shape r (.ok (some data)) =
      ((Document.mk shape fields).field r.storePath r.fieldKey).map fun text =>
        if text.isEmpty then none else some text := by
  simp only [outcome, fieldText, holds.ofData]
  rfl

theorem Reading.eq {member : Option Json} (reading : Reading r member ended)
    (found : lookup r.fieldKey fields = member) (holds : shape.Holds data fields) :
    ended = outcome shape r (.ok (some data)) := by
  rw [outcome_of_holds holds]
  cases reading with
  | text scalar nonempty =>
    rw [Engine.field_of_scalar found scalar]
    simp [Except.map, nonempty]
  | blank scalar =>
    rw [Engine.field_of_scalar found scalar]
    rfl
  | absent =>
    simp only [Document.field, found]
    rfl
  | null =>
    simp only [Document.field, found]
    rfl
  | array =>
    simp only [Document.field, found]
    rfl
  | object =>
    simp only [Document.field, found]
    rfl

theorem reading_of_holds (holds : shape.Holds data fields) (r : Reference) :
    Reading r (lookup r.fieldKey fields) (outcome shape r (.ok (some data))) := by
  obtain ⟨ended, reading⟩ := exists_reading r (lookup r.fieldKey fields)
  rwa [← reading.eq rfl holds]

end Resolution

end SecretTemplate
