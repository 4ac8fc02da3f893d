import SecretTemplate.Http.Message

namespace SecretTemplate.Http

/-- What a program reaches outside of itself. Each request may change it. -/
structure Outside (ω : Type) where
  send : Request → ω → Option Response × ω
  readText : String → ω → Except FileError String

def maxRedirections : Nat := 10

def redirects (status : Nat) : Bool := [301, 302, 303, 307, 308].contains status

/-- The URL that an answer to `r` redirects to. A location that requests cannot name counts as none. -/
def Request.redirection? (r : Request) (answer : Response) : Option Url :=
  if redirects answer.status then
    match answer.location.map (Url.join r.url) with
    | some (.ok url) =>
      if url.hasHost && url.text.utf8ByteSize ≤ maxUrl && !url.authorityText.toList.any isRefusedInHost then some url
      else none
    | _ => none
  else none

def sameServer (a b : Url) : Bool :=
  a.host == b.host && a.port.or (Url.defaultPort? a.scheme) == b.port.or (Url.defaultPort? b.scheme)

/-- The request that follows a redirection. The newer kinds of redirection keep method and body.
    Credentials are for one server. -/
def Request.redirected (r : Request) (status : Nat) (url : Url) : Request :=
  let credentials := if sameServer r.url url then r.credentials else none
  if status = 307 || status = 308 then { r with url, credentials }
  else { r with method := .get, url, credentials, body := none }

variable {ω : Type}

def exchange (o : Outside ω) : Nat → Request → ω → Except TransportError Response × ω
  | allowed, r, w =>
    match o.send r w with
    | (none, w) => (.error (.unanswered r.url.text), w)
    | (some answer, w) =>
      match r.redirection? answer with
      | none => (.ok answer, w)
      | some url =>
        match allowed with
        | 0 => (.error (.tooManyRedirects r.url.text), w)
        | allowed + 1 =>
          if url.scheme = "http" || url.scheme = "https" then exchange o allowed (r.redirected answer.status url) w
          else (.error (.unsupported url.text), w)

end SecretTemplate.Http
