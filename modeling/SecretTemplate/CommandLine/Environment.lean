import SecretTemplate.Text.Trim
import SecretTemplate.Text.Utf8

namespace SecretTemplate.CommandLine

structure Environment where
  entries : List (String × String) := []
  deriving DecidableEq, Repr, Inhabited

namespace Environment

def after? (front text : List Char) : Option (List Char) :=
  if front.isPrefixOf text then some (text.drop front.length) else none

def get? (env : Environment) (name : String) : Option String :=
  if name.isEmpty then none
  else env.entries.findSome? fun (known, value) =>
    (after? (name ++ "=").toList (known ++ "=" ++ value).toList).map String.ofList

/-- Gives a variable a value, unless it has one. No value holds a NUL. -/
def define? (env : Environment) (name value : String) : Option Environment :=
  if (env.get? name).isSome then some env
  else if value.toList.contains '\x00' then none
  else some ⟨env.entries ++ [(name, value)]⟩

/-- Reads the texts of variables, each ended by a NUL. One that is not UTF-8 has no value. -/
def ofBytes (bytes : Text.Utf8.Bytes) : Environment :=
  ⟨(bytes.splitOn 0).filterMap fun entry => do
    let (name, value) ← Text.splitFirst '=' (← Text.Utf8.decode? entry).toList
    return (.ofList name, .ofList value)⟩

end Environment

end SecretTemplate.CommandLine
