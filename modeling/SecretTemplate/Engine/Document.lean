import SecretTemplate.Engine.Shape
import SecretTemplate.Reference
import SecretTemplate.Json.Value

namespace SecretTemplate.Engine

structure Document where
  shape : Shape
  fields : List (String × Json)
  deriving Repr

namespace Document

def ofData (shape : Shape) (path : String) (data : Json) : Except Failure Document :=
  match shape, data with
  | .flat, .object fields => .ok ⟨.flat, fields⟩
  | .enveloped, .object members =>
    match lookup Reference.envelopeField members with
    | some (.object fields) => .ok ⟨.enveloped, fields⟩
    | _ => .error (.malformedEnvelope path)
  | _, _ => .error (.emptyDocument path)

/-- The text of a field. Only strings, numbers and truth values have one. -/
def field (document : Document) (path key : String) : Except Failure String :=
  match lookup key document.fields with
  | some (.string s) => .ok s
  | some (.number n) => .ok n.text
  | some (.bool b) => .ok (if b then "true" else "false")
  | some .null | none => .error (.fieldNotFound path key)
  | some (.array _) | some (.object _) => .error (.unsupportedField path key)

end Document

end SecretTemplate.Engine
