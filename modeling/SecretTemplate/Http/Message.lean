import SecretTemplate.Failure
import SecretTemplate.Keyed
import SecretTemplate.Url.Parser

namespace SecretTemplate.Http

open Text.Utf8 (Bytes)

inductive Method
  | get | post
  deriving DecidableEq, Repr, Inhabited

def Method.name : Method → String
  | get => "GET"
  | post => "POST"

structure Request where
  method : Method := .get
  url : Url
  headers : List (String × String) := []
  credentials : Option (String × String) := none
  body : Option String := none
  deriving DecidableEq, Repr

def Request.header? (r : Request) (name : String) : Option String := lookup name r.headers

structure Response where
  status : Nat
  location : Option String := none
  body : Bytes := []
  deriving DecidableEq, Repr

def Response.isSuccess (r : Response) : Bool := 200 ≤ r.status && r.status < 300

def isHeaderText (value : String) : Bool :=
  value.toList.all fun c => c == '\t' || (0x20 ≤ c.toNat && c.toNat != 0x7F)

def maxUrl : Nat := 65534

def isRefusedInHost (c : Char) : Bool := ['\x22', '\x60', '{', '}'].contains c

def isReachable (u : Url) : Bool :=
  (u.scheme = "http" || u.scheme = "https") && u.text.utf8ByteSize ≤ maxUrl &&
    match u.host with
    | some host => !host.text.toList.any isRefusedInHost
    | none => false

def decoded? (s : String) : Option String := Text.Utf8.decode? (Url.decodeBytes s.toList)

def takeCredentials (u : Url) : Url × Option (String × String) :=
  let word := if u.password = "" then none else decoded? u.password
  match decoded? u.username with
  | some name =>
    if name = "" && word.isNone then (u, none)
    else ({ u with username := "", password := "" }, some (name, word.getD ""))
  | none => (u, none)

def Request.build (method : Method) (address : String) (headers : List (String × String)) (body : Option String) :
    Except TransportError Request :=
  match Url.parse address with
  | .error _ => .error .unbuildable
  | .ok url =>
    if !url.hasHost then .error (.unsupported url.text)
    else if !headers.all fun (_, value) => isHeaderText value then .error .unbuildable
    else
      let (url, credentials) := takeCredentials url
      if isReachable url then .ok { method, url, headers, credentials, body } else .error (.unsupported url.text)

end SecretTemplate.Http
