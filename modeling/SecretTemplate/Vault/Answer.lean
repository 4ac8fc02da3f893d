import SecretTemplate.Http.Message
import SecretTemplate.Json.Reading

namespace SecretTemplate.Vault

open Text.Utf8 (Bytes)
open Json (Tree)
open Http (Response)

def member? (name : String) (body : Bytes) : Option (Option Tree) :=
  (Tree.ofBytes? body).bind (Tree.field? name)

def valueBelow? (below : Nat) (tree : Tree) : Option Json := tree.toJson? (Tree.maxDepth - below)

def text? : Tree → Option String
  | .string pieces => Json.pieceText? pieces
  | _ => none

def data? (body : Bytes) : Option (Option Json) :=
  (member? "data" body).bind (Tree.optional? (valueBelow? 1))

def messages (body : Bytes) : List String :=
  match member? "errors" body with
  | some (some (.array items)) => (items.mapM text?).getD []
  | _ => []

def refusal (r : Response) : StoreError :=
  if r.status = 404 then .notFound else .status r.status (messages r.body)

def undecodable : StoreError := .undecodable TransportError.undecodable.message

def options? (tree : Tree) : Option Json :=
  match tree with
  | .object _ => valueBelow? 2 tree
  | _ => none

def mountOptions? (body : Bytes) : Option (Option Json) := do
  let data ← (member? "data" body).bind (Tree.optional? (Tree.field? "options"))
  match data with
  | none => some none
  | some options => Tree.optional? options? options

def versionText? : Json → Option String
  | .null => none
  | .string s => some s
  | other => some other.text

def mountVersion (r : Response) : Except StoreError (Option String) :=
  if r.isSuccess then
    match mountOptions? r.body with
    | some options => .ok ((options.bind (·.member? "version")).bind versionText?)
    | none => .error undecodable
  else .error (refusal r)

def document (r : Response) : Except StoreError (Option Json) :=
  if r.status = 404 then .ok none
  else if r.isSuccess then
    match data? r.body with
    | some data => .ok (some (data.getD .null))
    | none => .error undecodable
  else .error (refusal r)

def token? (body : Bytes) : Option (Option String) := do
  let auth ← (member? "auth" body).bind (Tree.optional? (Tree.field? "client_token"))
  match auth with
  | none => some none
  | some none => some (some "")
  | some (some tree) => (text? tree).map some

def loginToken (r : Response) : Except String String :=
  if r.isSuccess then
    match token? r.body with
    | some (some token) => if token = "" then .error "no secret returned from Vault" else .ok token
    | some none => .error "no secret returned from Vault"
    | none => .error ("could not decode login response: " ++ TransportError.undecodable.message)
  else .error (refusal r).message

def tokenAccepted (r : Response) : Except String Unit :=
  if r.isSuccess then
    match data? r.body with
    | some (some (.object _)) => .ok ()
    | some _ => .error "got empty secret when checking token"
    | none => .error ("could not decode token lookup: " ++ TransportError.undecodable.message)
  else .error ("no token found in Vault client: " ++ (refusal r).message)

end SecretTemplate.Vault
