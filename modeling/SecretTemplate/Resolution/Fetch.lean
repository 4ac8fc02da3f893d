import SecretTemplate.Engine.Document
import SecretTemplate.Engine.Lookup
import SecretTemplate.Text.Redacted

namespace SecretTemplate.Resolution

open Engine (Shape Document)

/-- How a fetch ends: with a failure, with a value, or with an empty value, which counts as none. -/
abbrev Outcome := Except Failure (Option String)

def fieldText (shape : Shape) (r : Reference) : Except StoreError (Option Json) → Except Failure String
  | .error cause => .error (.unreachable r.storePath cause)
  | .ok none => .error (.secretNotFound r.storePath)
  | .ok (some data) => do
    let document ← Document.ofData shape r.storePath data
    document.field r.storePath r.fieldKey

def outcome (shape : Shape) (r : Reference) (answer : Except StoreError (Option Json)) : Outcome :=
  (fieldText shape r answer).map fun value => if value.isEmpty then none else some value

def readNotice (shape : Shape) (r : Reference) : Event :=
  ⟨.debug, .resolution, "Reading '" ++ shape.readPath r.storePath ++ "' for key " ++ r.fieldKey ++
    " (" ++ shape.name ++ ")"⟩

def outcomeNotices (shape : Shape) (r : Reference) (answer : Except StoreError (Option Json)) : List Event :=
  match outcome shape r answer with
  | .error _ => []
  | .ok none =>
    [⟨.warn, .resolution, "Vault returned an empty value for " ++ r.fieldKey ++ " at '" ++ r.storePath ++
      "', keeping fallback"⟩]
  | .ok (some value) =>
    [⟨.debug, .resolution, "Setting value of " ++ r.fieldKey ++ " (" ++ Text.redact value ++ ")"⟩]

/-- A fetch on its own, without cells: ask for the mount's version, then read. -/
def fetchAlone {σ : Type} (store : Store σ) (r : Reference) (s : Session σ) : Outcome × Session σ :=
  let path := Engine.clean r.storePath
  let (version, s) := s.mountVersion store path
  match Engine.classify path version with
  | .error cause => (.error cause, s)
  | .ok shape =>
    let (answer, s) := s.read store (shape.readPath r.storePath)
    (outcome shape r answer, s)

end SecretTemplate.Resolution
