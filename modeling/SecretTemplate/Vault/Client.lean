import SecretTemplate.Http.Exchange
import SecretTemplate.Settings
import SecretTemplate.Store
import SecretTemplate.Vault.Answer

namespace SecretTemplate.Vault

open Http (Outside Request Response Method)

/-- What a client knows from the settings and never changes. -/
structure Client where
  address : String
  «namespace» : Option String
  loginMount : String
  jwtPath : String
  deriving DecidableEq, Repr

structure State (ω : Type) where
  token : Option String
  outside : ω
  /-- The requests that were sent, those that follow a redirection apart. -/
  sent : List Request := []

def Client.ofConnection (c : Connection) : Client where
  address := .ofList (Text.dropEnd (· == '/') c.address.toList)
  «namespace» := c.namespace
  loginMount := c.authMount.stripChar '/'
  jwtPath := c.jwtPath

def State.ofConnection {ω : Type} (c : Connection) (outside : ω) : State ω := { token := c.token, outside }

namespace Client

variable {ω : Type}

def url (c : Client) (path : String) : String :=
  c.address ++ "/v1/" ++ String.ofList (path.toList.dropWhile (· == '/'))

def tokenHeader : String := "X-Vault-Token"
def namespaceHeader : String := "X-Vault-Namespace"

def headers (c : Client) (token : Option String) : List (String × String) :=
  (token.map (tokenHeader, ·)).toList ++ (c.namespace.map (namespaceHeader, ·)).toList

/-- Sends a request about a path, if it can be put together. -/
def ask (c : Client) (o : Outside ω) (method : Method) (path : String) (body : Option String) (s : State ω) :
    Except TransportError Response × State ω :=
  match Request.build method (c.url path) (c.headers s.token) body with
  | .error e => (.error e, s)
  | .ok r =>
    let (answer, outside) := Http.exchange o Http.maxRedirections r s.outside
    (answer, { s with outside, sent := s.sent ++ [r] })

def queryNotice (c : Client) (path : String) : Event := ⟨.debug, .client, "GET " ++ c.url path⟩

def query {α : Type} (c : Client) (o : Outside ω) (path : String) (read : Response → Except StoreError α)
    (s : State ω) : Reply (State ω) (Except StoreError α) :=
  let (answer, s) := c.ask o .get path none s
  ⟨match answer with
    | .ok r => read r
    | .error e => .error (.transport e),
    [c.queryNotice path], s⟩

def mountVersion (c : Client) (o : Outside ω) (path : String) (s : State ω) :
    Reply (State ω) (Except StoreError (Option String)) :=
  c.query o ("sys/internal/ui/mounts/" ++ path.stripChar '/') Vault.mountVersion s

def read (c : Client) (o : Outside ω) (path : String) (s : State ω) :
    Reply (State ω) (Except StoreError (Option Json)) :=
  c.query o path document s

end Client

end SecretTemplate.Vault
