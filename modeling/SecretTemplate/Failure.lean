import SecretTemplate.Files.FileError
import SecretTemplate.Text.Quoted

namespace SecretTemplate

inductive TransportError
  | unbuildable
  | unsupported (url : String)
  | unanswered (url : String)
  | tooManyRedirects (url : String)
  | undecodable
  deriving DecidableEq, Repr, Inhabited

def TransportError.message : TransportError → String
  | unbuildable => "builder error"
  | unsupported url => s!"builder error for url ({url})"
  | unanswered url => s!"error sending request for url ({url})"
  | tooManyRedirects url => s!"error following redirect for url ({url})"
  | undecodable => "error decoding response body"

inductive StoreError
  | notFound
  | status (code : Nat) (errors : List String)
  | transport (cause : TransportError)
  | undecodable (text : String)
  deriving DecidableEq, Repr, Inhabited

def StoreError.message : StoreError → String
  | notFound => "not found"
  | status code errors => s!"unexpected status {code}: " ++ String.intercalate "; " errors
  | transport cause => "request failed: " ++ cause.message
  | undecodable text => "could not decode response: " ++ text

inductive Failure
  | malformedReference (placeholder reason : String)
  | unusablePlaceholder (placeholder : String) (cause : Failure)
  | unsupportedVersion (path version : String)
  | unreachable (path : String) (cause : StoreError)
  | secretNotFound (path : String)
  | emptyDocument (path : String)
  | malformedEnvelope (path : String)
  | fieldNotFound (path key : String)
  | unsupportedField (path key : String)
  | partialResolution (messages : List String)
  | templateNotFound (path : String)
  | templateUnreadable (path : String) (cause : FileError)
  | outputUnwritable (path : String) (cause : FileError)
  | authentication (text : String)
  | invalidSettings (text : String)
  deriving DecidableEq, Repr, Inhabited

namespace Failure

def message : Failure → String
  | malformedReference placeholder reason => s!"malformed placeholder {Text.quote placeholder}: {reason}"
  | unusablePlaceholder placeholder cause => s!"could not construct secret for {placeholder}: " ++ cause.message
  | unsupportedVersion path version =>
    "unknown KV API version " ++ Text.quote version ++ " for mount of '" ++ path ++ "'"
  | unreachable path cause => "failed to fetch secret '" ++ path ++ "' from Vault: " ++ cause.message
  | secretNotFound path => "secret '" ++ path ++ "' does not exist in Vault"
  | emptyDocument path => "secret '" ++ path ++ "' was returned without data"
  | malformedEnvelope path => "could not parse KV v2 secret data at '" ++ path ++ "'"
  | fieldNotFound path key => s!"secret data for path {path} does not contain key {key}"
  | unsupportedField path key => s!"key {key} at path {path} is not a scalar value"
  | partialResolution messages => Text.quoteList messages
  | templateNotFound path => s!"template file {path} does not exist"
  | templateUnreadable path cause => "failed reading template '" ++ path ++ "': " ++ cause.message
  | outputUnwritable path cause => "failed writing to file '" ++ path ++ "': " ++ cause.message
  | authentication text => "failed authenticating with Vault: " ++ text
  | invalidSettings text => "invalid configuration: " ++ text

def causes : Failure → List String
  | unusablePlaceholder _ cause => cause.message :: cause.causes
  | unreachable _ cause => [cause.message]
  | templateUnreadable _ cause | outputUnwritable _ cause => [cause.message]
  | _ => []

end Failure

end SecretTemplate
