import SecretTemplate.Vault.Client

namespace SecretTemplate.Vault.Client

open Http (Outside)

variable {ω : Type}

def loginBody (role jwt : String) : String :=
  "\x7b\"role\":" ++ Json.stringText role ++ ",\"jwt\":" ++ Json.stringText jwt ++ "\x7d"

def requestToken (c : Client) (o : Outside ω) (role jwt : String) (s : State ω) :
    Except String String × State ω :=
  match c.ask o .post ("auth/" ++ c.loginMount ++ "/login") (some (loginBody role jwt.trimBlank)) s with
  | (.error e, s) => (.error e.message, s)
  | (.ok r, s) => (loginToken r, s)

def confirmToken (c : Client) (o : Outside ω) (s : State ω) : Except String Unit × State ω :=
  match c.ask o .get "auth/token/lookup-self" none s with
  | (.error e, s) => (.error ("no token found in Vault client: " ++ e.message), s)
  | (.ok r, s) => (tokenAccepted r, s)

def login (c : Client) (o : Outside ω) (role : String) (s : State ω) : Except String Unit × State ω :=
  match o.readText c.jwtPath s.outside with
  | .error e => (.error ("could not read JWT from " ++ c.jwtPath ++ ": " ++ e.message), s)
  | .ok jwt =>
    match c.requestToken o role jwt s with
    | (.error e, s) => (.error e, s)
    | (.ok token, s) => c.confirmToken o { s with token := some token }

def loginNotice (role : String) : Event :=
  ⟨.debug, .login, "Authenticating with Vault as role " ++ role ++ "..."⟩

def loggedInNotice (role : String) : Event := ⟨.info, .login, "Authenticated with Vault as role " ++ role⟩

def authenticate (c : Client) (o : Outside ω) (role : Option String) (s : State ω) :
    Reply (State ω) (Except Failure Unit) :=
  if s.token.isSome then ⟨.ok (), [⟨.debug, .login, "Already authenticated by token"⟩], s⟩
  else
    match role with
    | none => ⟨.error (.authentication "no Vault token is set and no role was given"), [], s⟩
    | some role =>
      match c.login o role s with
      | (.error text, s) => ⟨.error (.authentication text), [loginNotice role], s⟩
      | (.ok (), s) => ⟨.ok (), [loginNotice role, loggedInNotice role], s⟩

def store (c : Client) (o : Outside ω) : Store (State ω) where
  name := "vault"
  authenticate := c.authenticate o
  mountVersion := c.mountVersion o
  read := c.read o

end SecretTemplate.Vault.Client
