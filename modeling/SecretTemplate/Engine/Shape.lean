import SecretTemplate.Engine.Path
import SecretTemplate.Failure

namespace SecretTemplate.Engine

/-- A flat document has its fields as members; an enveloped one has them under the member `data`. -/
inductive Shape
  | flat
  | enveloped
  deriving DecidableEq, Repr, Inhabited

namespace Shape

def name : Shape → String
  | flat => "Flat"
  | enveloped => "Enveloped"

/-- The shape that a mount's version stands for. A mount without a version is flat. -/
def ofVersion (path : String) : Option String → Except Failure Shape
  | none | some "" | some "1" => .ok flat
  | some "2" => .ok enveloped
  | some version => .error (.unsupportedVersion path version)

def readPath : Shape → String → String
  | flat, path => clean path
  | enveloped, path => dataPath path

end Shape

end SecretTemplate.Engine
