import SecretTemplate.Http.Exchange
import SecretTemplate.Text.Base64
import SecretTemplate.Text.Number
import SecretTemplate.Text.Trim

namespace SecretTemplate.Http

open Text.Utf8 (Bytes)

def headerLine (name value : String) : String := name ++ ": " ++ value ++ "\r\n"

def hostText (u : Url) : String := ((u.host.map Url.Host.text).getD "") ++ Url.portText u.port

def credentialsLine : Option (String × String) → String
  | some (name, word) =>
    headerLine "Authorization" ("Basic " ++ .ofList (Text.base64 (Text.Utf8.encode (name ++ ":" ++ word))))
  | none => ""

def bodyText : Option String → String
  | some body =>
    headerLine "Content-Type" "application/json" ++ headerLine "Content-Length" (toString body.utf8ByteSize) ++
      "\r\n" ++ body
  | none => "\r\n"

def Request.wire (r : Request) : Bytes :=
  Text.Utf8.encode (r.method.name ++ " " ++ r.url.target ++ " HTTP/1.1\r\n" ++
    headerLine "Host" (hostText r.url) ++ headerLine "Accept" "*/*" ++ headerLine "Connection" "close" ++
    String.join (r.headers.map fun (name, value) => headerLine name value) ++ credentialsLine r.credentials ++
    bodyText r.body)

def line? : Bytes → Option (Bytes × Bytes)
  | [] => none
  | 0x0D :: 0x0A :: rest => some ([], rest)
  | 0x0A :: rest => some ([], rest)
  | b :: rest => (line? rest).map fun (line, rest) => (b :: line, rest)

def header? (line : Bytes) : Option (String × String) := do
  let text ← Text.Utf8.decode? line
  let (name, value) ← Text.splitFirst ':' text.toList
  return (.ofList (name.map Char.toLower), .ofList (Text.trim value))

def headers? (bytes : Bytes) : Nat → Option (List (String × String) × Bytes)
  | 0 => none
  | fuel + 1 => do
    let (line, rest) ← line? bytes
    if line.isEmpty then return ([], rest)
    let header ← header? line
    let (headers, rest) ← headers? rest fuel
    return (header :: headers, rest)

def status? (line : Bytes) : Option Nat := do
  let text ← Text.Utf8.decode? line
  match Text.splitAll ' ' text.toList with
  | version :: code :: _ =>
    guard (version.take 7 = ['H', 'T', 'T', 'P', '/', '1', '.'] && code.length = 3)
    Text.word? code
  | _ => none

def chunks? (bytes : Bytes) : Nat → Option Bytes
  | 0 => none
  | fuel + 1 => do
    let (line, rest) ← line? bytes
    let text ← Text.Utf8.decode? line
    let digits := Text.trim (text.toList.takeWhile (· != ';'))
    let size ← if digits.isEmpty then none
      else digits.foldlM (fun n c => (Text.hexValue? c).map (n * 16 + ·)) 0
    if size = 0 then return []
    guard (size ≤ rest.length)
    let (_, after) ← line? (rest.drop size)
    let later ← chunks? after fuel
    return rest.take size ++ later

def body? (status : Nat) (headers : List (String × String)) (rest : Bytes) : Option Bytes :=
  if status = 204 || status = 304 then some []
  else if lookup "transfer-encoding" headers = some "chunked" then chunks? rest (rest.length + 1)
  else
    match (lookup "content-length" headers).map (Text.word? ·.toList) with
    | some (some size) => if size ≤ rest.length then some (rest.take size) else none
    | some none => none
    | none => some rest

def Response.ofWire? (bytes : Bytes) : Option Response := do
  let (line, rest) ← line? bytes
  let status ← status? line
  let (headers, rest) ← headers? rest (rest.length + 1)
  let body ← body? status headers rest
  return { status, location := lookup "location" headers, body }

end SecretTemplate.Http
