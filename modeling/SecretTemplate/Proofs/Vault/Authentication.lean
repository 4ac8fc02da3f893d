import SecretTemplate.Proofs.Keyed.Access
import SecretTemplate.Vault.Login

namespace SecretTemplate

namespace Http

theorem Request.headers_build {method : Method} {address : String} {headers : List (String × String)}
    {body : Option String} {r : Request} (h : Request.build method address headers body = .ok r) :
    r.headers = headers := by
  unfold Request.build at h
  split at h
  · cases h
  · split at h
    · cases h
    · split at h
      · cases h
      · dsimp only at h
        split at h
        · cases h
          rfl
        · cases h

end Http

namespace Vault

open Http (Outside Request Response Method)

theorem loginToken_ne_empty {r : Response} {token : String} (h : loginToken r = .ok token) : token ≠ "" := by
  unfold loginToken at h
  split at h
  · split at h
    · split at h
      · cases h
      · rename_i nonempty
        cases h
        exact nonempty
    · cases h
    · cases h
  · cases h

variable {ω : Type} {c : Client} {o : Outside ω} {s t u : State ω}

structure Asked (s t : State ω) : Prop where
  token : t.token = s.token
  sent : ∃ more, t.sent = s.sent ++ more ∧ ∀ r ∈ more, r.header? Client.tokenHeader = s.token

theorem Asked.refl (s : State ω) : Asked s s := ⟨rfl, [], (List.append_nil _).symm, by simp⟩

theorem Asked.trans (first : Asked s t) (second : Asked t u) : Asked s u := by
  obtain ⟨more, sent, carried⟩ := first.sent
  obtain ⟨more', sent', carried'⟩ := second.sent
  refine ⟨second.token.trans first.token, more ++ more', ?_, ?_⟩
  · rw [sent', sent, List.append_assoc]
  · intro r member
    rcases List.mem_append.mp member with member | member
    · exact carried r member
    · exact (carried' r member).trans first.token

namespace Client

theorem header?_headers (c : Client) (token : Option String) :
    lookup tokenHeader (c.headers token) = token := by
  cases token with
  | some text => simp [headers, lookup]
  | none =>
    cases space : c.namespace with
    | none => simp [headers, lookup, space]
    | some name => simp [headers, lookup, space, namespaceHeader, tokenHeader]

theorem asked_ask (c : Client) (o : Outside ω) (method : Method) (path : String) (body : Option String)
    (s : State ω) : Asked s (c.ask o method path body s).2 := by
  unfold ask
  cases built : Request.build method (c.url path) (c.headers s.token) body with
  | error cause => exact .refl s
  | ok r =>
    refine ⟨rfl, [r], rfl, ?_⟩
    intro r' member
    cases List.mem_singleton.mp member
    rw [Request.header?, Request.headers_build built]
    exact c.header?_headers s.token

theorem sent_ask {method : Method} {path : String} {body : Option String} {r : Request}
    (built : Request.build method (c.url path) (c.headers s.token) body = .ok r) :
    (c.ask o method path body s).2.sent = s.sent ++ [r] := by
  unfold ask
  rw [built]

theorem asked_query {α : Type} (c : Client) (o : Outside ω) (path : String)
    (read : Response → Except StoreError α) (s : State ω) : Asked s (c.query o path read s).next := by
  have asked := c.asked_ask o .get path none s
  unfold query
  generalize c.ask o .get path none s = answered at asked ⊢
  exact asked

/-- Questions that a store answers without a login. -/
inductive Later (c : Client) (o : Outside ω) (s : State ω) : State ω → Prop
  | here : Later c o s s
  | mountVersion {t : State ω} (path : String) (before : Later c o s t) : Later c o s (c.mountVersion o path t).next
  | read {t : State ω} (path : String) (before : Later c o s t) : Later c o s (c.read o path t).next

theorem Later.asked (later : c.Later o s t) : Asked s t := by
  induction later with
  | here => exact .refl s
  | mountVersion path _ ih =>
    refine ih.trans ?_
    unfold Client.mountVersion
    exact c.asked_query ..
  | read path _ ih =>
    refine ih.trans ?_
    unfold Client.read
    exact c.asked_query ..

theorem requestToken_snd (c : Client) (o : Outside ω) (role jwt : String) (s : State ω) :
    (c.requestToken o role jwt s).2 =
      (c.ask o .post ("auth/" ++ c.loginMount ++ "/login") (some (loginBody role jwt.trimBlank)) s).2 := by
  unfold requestToken
  split
  · rename_i answer
    rw [answer]
  · rename_i answer
    rw [answer]

theorem confirmToken_snd (c : Client) (o : Outside ω) (s : State ω) :
    (c.confirmToken o s).2 = (c.ask o .get "auth/token/lookup-self" none s).2 := by
  unfold confirmToken
  split
  · rename_i answer
    rw [answer]
  · rename_i answer
    rw [answer]

theorem requestToken_ne_empty {role jwt token : String} (h : (c.requestToken o role jwt s).1 = .ok token) :
    token ≠ "" := by
  unfold requestToken at h
  split at h
  · cases h
  · exact loginToken_ne_empty h

/-- The token that a login would get. -/
def granted? (c : Client) (o : Outside ω) (role : Option String) (s : State ω) : Option String :=
  match role, o.readText c.jwtPath s.outside with
  | some role, .ok jwt => (c.requestToken o role jwt s).1.toOption
  | _, _ => none

/-- How an attempt to log in can end. -/
inductive Attempt (c : Client) (o : Outside ω) (s : State ω) :
    Option String → Except Failure Unit → State ω → Prop
  | noRole (text : String) : Attempt c o s none (.error (.authentication text)) s
  | unread {role : String} {cause : FileError} (text : String)
      (unreadable : o.readText c.jwtPath s.outside = .error cause) :
      Attempt c o s (some role) (.error (.authentication text)) s
  | refused {role jwt text : String} {t : State ω} (readable : o.readText c.jwtPath s.outside = .ok jwt)
      (request : c.requestToken o role jwt s = (.error text, t)) :
      Attempt c o s (some role) (.error (.authentication text)) t
  | unconfirmed {role jwt token text : String} {t u : State ω} (readable : o.readText c.jwtPath s.outside = .ok jwt)
      (request : c.requestToken o role jwt s = (.ok token, t))
      (confirm : c.confirmToken o { t with token := some token } = (.error text, u)) :
      Attempt c o s (some role) (.error (.authentication text)) u
  | confirmed {role jwt token : String} {t u : State ω} (readable : o.readText c.jwtPath s.outside = .ok jwt)
      (request : c.requestToken o role jwt s = (.ok token, t))
      (confirm : c.confirmToken o { t with token := some token } = (.ok (), u)) :
      Attempt c o s (some role) (.ok ()) u

theorem attempt_authenticate (c : Client) (o : Outside ω) (role : Option String) (loggedOut : s.token = none) :
    Attempt c o s role (c.authenticate o role s).answer (c.authenticate o role s).next := by
  unfold authenticate login
  rw [loggedOut]
  cases role with
  | none => exact .noRole _
  | some role =>
    cases readable : o.readText c.jwtPath s.outside with
    | error cause => exact .unread _ readable
    | ok jwt =>
      cases request : c.requestToken o role jwt s with
      | mk answer t =>
        cases answer with
        | error text =>
          simp only [request]
          exact .refused readable request
        | ok token =>
          cases confirm : c.confirmToken o { t with token := some token } with
          | mk answer' u =>
            cases answer' with
            | error text =>
              simp only [request, confirm]
              exact .unconfirmed readable request confirm
            | ok =>
              simp only [request, confirm]
              exact .confirmed readable request confirm

theorem authenticate_of_token {token : String} (held : s.token = some token) (role : Option String) :
    c.authenticate o role s = ⟨.ok (), [⟨.debug, .login, "Already authenticated by token"⟩], s⟩ := by
  simp only [authenticate, held, Option.isSome_some, if_true]

theorem answer_authenticate_of_token {token : String} (held : s.token = some token) (role : Option String) :
    (c.authenticate o role s).answer = .ok () := by
  rw [authenticate_of_token held role]

theorem next_authenticate_of_token {token : String} (held : s.token = some token) (role : Option String) :
    (c.authenticate o role s).next = s := by
  rw [authenticate_of_token held role]

theorem asked_requestToken {role jwt : String} {answer : Except String String}
    (h : c.requestToken o role jwt s = (answer, t)) : Asked s t := by
  have asked := c.asked_ask o .post ("auth/" ++ c.loginMount ++ "/login") (some (loginBody role jwt.trimBlank)) s
  rw [← requestToken_snd, h] at asked
  exact asked

theorem asked_confirmToken {answer : Except String Unit} (h : c.confirmToken o s = (answer, t)) : Asked s t := by
  have asked := c.asked_ask o .get "auth/token/lookup-self" none s
  rw [← confirmToken_snd, h] at asked
  exact asked

theorem Attempt.token {role : Option String} {answer : Except Failure Unit} (attempt : Attempt c o s role answer t)
    (loggedOut : s.token = none) : t.token = c.granted? o role s := by
  cases attempt with
  | noRole => exact loggedOut
  | unread text unreadable =>
    simp only [granted?, unreadable]
    exact loggedOut
  | refused readable request =>
    simp only [granted?, readable, request]
    exact (asked_requestToken request).token.trans loggedOut
  | unconfirmed readable request confirm =>
    simp only [granted?, readable, request]
    exact (asked_confirmToken confirm).token
  | confirmed readable request confirm =>
    simp only [granted?, readable, request]
    exact (asked_confirmToken confirm).token

theorem Attempt.refused_of_granted {role : Option String} {cause : Failure} {token : String}
    (attempt : Attempt c o s role (.error cause) t) (granted : c.granted? o role s = some token) :
    token ≠ "" ∧ ∃ (between : State ω) (text : String), cause = .authentication text ∧
      c.confirmToken o { between with token := some token } = (.error text, t) := by
  cases attempt with
  | noRole => cases granted
  | unread text unreadable =>
    simp only [granted?, unreadable] at granted
    cases granted
  | refused readable request =>
    simp only [granted?, readable, request] at granted
    cases granted
  | @unconfirmed role jwt token' text between after readable request confirm =>
    simp only [granted?, readable, request, Except.toOption, Option.some.injEq] at granted
    subst granted
    have given : (c.requestToken o role jwt s).1 = .ok token' := by rw [request]
    exact ⟨requestToken_ne_empty given, between, text, rfl, confirm⟩

theorem sent_authenticate {role jwt : String} {r : Request} (loggedOut : s.token = none)
    (readable : o.readText c.jwtPath s.outside = .ok jwt)
    (built : Request.build .post (c.url ("auth/" ++ c.loginMount ++ "/login")) (c.headers none)
      (some (loginBody role jwt.trimBlank)) = .ok r) :
    ∃ more, (c.authenticate o (some role) s).next.sent = s.sent ++ r :: more := by
  rw [← loggedOut] at built
  have sent := sent_ask (o := o) built
  rw [← requestToken_snd] at sent
  have attempt := attempt_authenticate c o (some role) loggedOut
  generalize (c.authenticate o (some role) s).answer = answer at attempt
  generalize (c.authenticate o (some role) s).next = after at attempt ⊢
  -- The token is confirmed by requests that come after the login.
  have confirmed {token : String} {answer : Except String Unit} {t u : State ω}
      (request : c.requestToken o role jwt s = (.ok token, t))
      (confirm : c.confirmToken o { t with token := some token } = (answer, u)) :
      ∃ more, u.sent = s.sent ++ r :: more := by
    obtain ⟨more, later, -⟩ := (asked_confirmToken confirm).sent
    rw [request] at sent
    refine ⟨more, ?_⟩
    rw [later, sent, List.append_assoc]
    rfl
  cases attempt with
  | unread text unreadable =>
    rw [readable] at unreadable
    cases unreadable
  | refused readable' request =>
    cases readable.symm.trans readable'
    rw [request] at sent
    exact ⟨[], sent⟩
  | unconfirmed readable' request confirm =>
    cases readable.symm.trans readable'
    exact confirmed request confirm
  | confirmed readable' request confirm =>
    cases readable.symm.trans readable'
    exact confirmed request confirm

/-- After an attempt that fails a client without a token holds what the login gave it. If that is nothing, nothing
    is sent with later requests and the next attempt logs in again; if it is a token that was refused, that token
    is sent with every later request, and the next attempt succeeds without a request. -/
theorem authenticate_failed {role : Option String} {cause : Failure} (loggedOut : s.token = none)
    (failed : (c.authenticate o role s).answer = .error cause) :
    let after := (c.authenticate o role s).next
    after.token = c.granted? o role s ∧
    (∀ later, c.Later o after later → later.token = after.token ∧
      ∃ more, later.sent = after.sent ++ more ∧ ∀ r ∈ more, r.header? tokenHeader = after.token) ∧
    (c.granted? o role s = none → ∀ again jwt r, o.readText c.jwtPath after.outside = .ok jwt →
      Request.build .post (c.url ("auth/" ++ c.loginMount ++ "/login")) (c.headers none)
        (some (loginBody again jwt.trimBlank)) = .ok r →
      ∃ more, (c.authenticate o (some again) after).next.sent = after.sent ++ r :: more) ∧
    ∀ token, c.granted? o role s = some token → token ≠ "" ∧
      (∃ (between : State ω) (text : String), cause = .authentication text ∧
        c.confirmToken o { between with token := some token } = (.error text, after)) ∧
      ∀ again,
        c.authenticate o again after = ⟨.ok (), [⟨.debug, .login, "Already authenticated by token"⟩], after⟩ := by
  intro after
  have attempt := attempt_authenticate c o role loggedOut
  have held := attempt.token loggedOut
  refine ⟨held, fun later reached => ⟨reached.asked.token, reached.asked.sent⟩, ?_, ?_⟩
  · intro none again jwt r readable built
    exact sent_authenticate (held.trans none) readable built
  · intro token granted
    rw [failed] at attempt
    obtain ⟨nonempty, refused⟩ := attempt.refused_of_granted granted
    exact ⟨nonempty, refused, authenticate_of_token (held.trans granted)⟩

/-- A server that gives everyone a token and accepts none. -/
def refusing : Outside Unit where
  send r _ :=
    match r.method with
    | .post => (some ⟨200, none, Text.Utf8.encode "\x7b\"auth\":\x7b\"client_token\":\"s.new\"\x7d\x7d"⟩, ())
    | .get => (some ⟨403, none, Text.Utf8.encode "\x7b\"errors\":[\"permission denied\"]\x7d"⟩, ())
  readText _ _ := .ok "jwt"

def local8200 : Client := ⟨"http://127.0.0.1:8200", none, "kubernetes", "token"⟩

def refusedText : String := "no token found in Vault client: unexpected status 403: permission denied"

def loggedOut : State Unit := { token := none, outside := () }

theorem answer_refusing :
    (local8200.authenticate refusing (some "app") loggedOut).answer = .error (.authentication refusedText) := by
  decide +kernel

theorem token_refusing : (local8200.authenticate refusing (some "app") loggedOut).next.token = some "s.new" := by
  decide +kernel

theorem granted_refusing : local8200.granted? refusing (some "app") loggedOut = some "s.new" := by
  have none : loggedOut.token = none := rfl
  have held := (attempt_authenticate local8200 refusing (some "app") none).token none
  exact held.symm.trans token_refusing

theorem authenticate_failed_refusing :
    let first := local8200.authenticate refusing (some "app") loggedOut
    loggedOut.token = none ∧ first.answer = .error (.authentication refusedText) ∧
      first.next.token = some "s.new" ∧
      ∀ again, (local8200.authenticate refusing again first.next).answer = .ok () := by
  have none : loggedOut.token = none := rfl
  obtain ⟨held, -, -, kept⟩ := authenticate_failed none answer_refusing
  obtain ⟨-, -, atOnce⟩ := kept "s.new" granted_refusing
  exact ⟨none, answer_refusing, held.trans granted_refusing, fun again => congrArg Reply.answer (atOnce again)⟩

/-- An attempt can fail and leave a token behind, so that the next one succeeds without a request. -/
theorem token_after_failure :
    let first := local8200.authenticate refusing (some "app") loggedOut
    let second := local8200.authenticate refusing (some "app") first.next
    loggedOut.token = none ∧ first.answer = .error (.authentication refusedText) ∧
      first.next.token = some "s.new" ∧ second.answer = .ok () ∧ second.next = first.next :=
  ⟨rfl, answer_refusing, token_refusing, answer_authenticate_of_token token_refusing _,
    next_authenticate_of_token token_refusing _⟩

end Client

end Vault

end SecretTemplate
