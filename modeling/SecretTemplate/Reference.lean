import SecretTemplate.Text.Trim
import SecretTemplate.Failure
import SecretTemplate.Event

namespace SecretTemplate

/-- A field of a stored document. `value` is the best value known: the fallback until a fetched value
    takes its place. -/
structure Reference where
  storePath : String
  fieldKey : String
  fallback : String
  value : String
  deriving DecidableEq, Repr, Inhabited

namespace Reference

inductive Fault
  | noSeparator
  | emptyPath
  | emptyKey
  deriving DecidableEq, Repr, Inhabited

def Fault.message : Fault → String
  | noSeparator => "path does not contain a `!` separator"
  | emptyPath => "secret path is empty"
  | emptyKey => "secret key is empty"

/-- A placeholder without white space and braces around it. The braces are optional and any number of
    them is taken. -/
def unwrap (cs : List Char) : List Char :=
  Text.trim (Text.dropEnd (· == '}') ((Text.trim cs).dropWhile (· == '{')))

def splitKey (cs : List Char) : List Char × List Char :=
  (Text.splitFirst ':' cs).getD (cs, [])

def ofChars (path key fallback : List Char) : Reference :=
  ⟨.ofList path, .ofList key, .ofList fallback, .ofList fallback⟩

/-- Reads a reference without delimiters. The path ends at the first `!`, the key at the first `:`
    after it. -/
def parseBare (cs : List Char) : Except Fault Reference :=
  match Text.splitFirst '!' cs with
  | none => .error .noSeparator
  | some (path, rest) =>
    let (key, fallback) := splitKey rest
    if (Text.trim path).isEmpty then .error .emptyPath
    else if key.isEmpty then .error .emptyKey
    else .ok (ofChars path key fallback)

def parse (placeholder : String) : Except Fault Reference :=
  parseBare (unwrap placeholder.toList)

def envelopeField : String := "data"

def notices (r : Reference) : List Event :=
  if r.fieldKey = envelopeField then
    [⟨.warn, .reference, "A secret called " ++ Text.quote r.fieldKey ++
      " can confuse things, as it's the name of the data field in the Vault response. It should work under KV v2, " ++
      "but please consider renaming it."⟩]
  else []

def read (placeholder : String) : Logged (Except Failure Reference) :=
  match parse placeholder with
  | .ok r => ⟨.ok r, r.notices⟩
  | .error fault => ⟨.error (.malformedReference placeholder fault.message), []⟩

end Reference

end SecretTemplate
