import SecretTemplate.Proofs.Lists
import SecretTemplate.Proofs.Vault.Authentication

namespace SecretTemplate

namespace Store

variable {σ : Type}

/-- The state in which a call leaves a store. -/
def after (store : Store σ) (call : Call) (s : σ) : σ :=
  match call with
  | .authenticate role => (store.authenticate role s).next
  | .mountVersion path => (store.mountVersion path s).next
  | .read path => (store.read path s).next

def afterAll (store : Store σ) (calls : List Call) (s : σ) : σ := calls.foldl (fun s call => store.after call s) s

theorem afterAll_append (store : Store σ) (calls later : List Call) (s : σ) :
    store.afterAll (calls ++ later) s = store.afterAll later (store.afterAll calls s) :=
  List.foldl_append ..

end Store

namespace Vault

open Http (Outside Request Response Method)

/-- The answer to a login that gives a token. -/
@[mk_iff]
structure Grants (response : Response) (token : String) : Prop where
  success : response.isSuccess = true
  found : token? response.body = some (some token)
  nonempty : token ≠ ""

/-- The answer to a lookup that accepts the token. -/
@[mk_iff]
structure Accepts (response : Response) : Prop where
  success : response.isSuccess = true
  object : ∃ fields, data? response.body = some (some (.object fields))

theorem loginToken_eq_ok_iff {r : Response} {token : String} : loginToken r = .ok token ↔ Grants r token := by
  rw [grants_iff]
  unfold loginToken
  cases success : r.isSuccess with
  | false => simp
  | true =>
    cases found : token? r.body with
    | none => simp
    | some given =>
      cases given with
      | none => simp
      | some text =>
        by_cases empty : text = ""
        · simp [empty]
        · simp only [empty, if_true, if_false, true_and, Except.ok.injEq, Option.some.injEq]
          constructor
          · rintro rfl
            exact ⟨rfl, empty⟩
          · exact And.left

theorem tokenAccepted_eq_ok_iff {r : Response} : tokenAccepted r = .ok () ↔ Accepts r := by
  rw [accepts_iff]
  unfold tokenAccepted
  cases success : r.isSuccess with
  | false => simp
  | true =>
    cases found : data? r.body with
    | none => simp
    | some data =>
      cases data with
      | none => simp
      | some value => cases value <;> simp

/-- What a client does: it sends a request, or holds a token from now on. -/
inductive Deed
  | sent (request : Request) (answer : Except TransportError Response)
  | took (token : String)

namespace Deed

def request? : Deed → Option Request
  | .sent request _ => some request
  | .took _ => none

def isTaking : Deed → Bool
  | .sent _ _ => false
  | .took _ => true

end Deed

def heldAfter (token : Option String) (deeds : List Deed) : Option String :=
  deeds.foldl (fun held deed =>
    match deed with
    | .sent _ _ => held
    | .took token => some token) token

theorem heldAfter_sent (token : Option String) (deeds : List Deed) (r : Request)
    (answer : Except TransportError Response) :
    heldAfter token (deeds ++ [.sent r answer]) = heldAfter token deeds := by
  rw [heldAfter, List.foldl_append]
  rfl

theorem heldAfter_took (token : Option String) (deeds : List Deed) (taken : String) :
    heldAfter token (deeds ++ [.took taken]) = some taken := by
  rw [heldAfter, List.foldl_append]
  rfl

namespace Client

variable {ω : Type} {c : Client} {o : Outside ω} {s t u : State ω} {deeds more : List Deed}

def IsLogin (c : Client) (role jwt : String) (r : Request) : Prop :=
  Request.build .post (c.url ("auth/" ++ c.loginMount ++ "/login")) (c.headers none)
    (some (loginBody role jwt.trimBlank)) = .ok r

def IsLookup (c : Client) (token : String) (r : Request) : Prop :=
  Request.build .get (c.url "auth/token/lookup-self") (c.headers (some token)) none = .ok r

/-- What a client does between two states. The answers are those of the network, each to the request that was sent,
    and a token is taken from nothing but the answer to a login that was sent just before. -/
inductive Does (c : Client) (o : Outside ω) (s : State ω) : List Deed → State ω → Prop
  | nothing : Does c o s [] s
  | send {deeds : List Deed} {t : State ω} {method : Method} {path : String} {body : Option String} {r : Request}
      (before : Does c o s deeds t)
      (built : Request.build method (c.url path) (c.headers t.token) body = .ok r) :
      Does c o s (deeds ++ [.sent r (Http.exchange o Http.maxRedirections r t.outside).1])
        { t with outside := (Http.exchange o Http.maxRedirections r t.outside).2, sent := t.sent ++ [r] }
  | take {deeds : List Deed} {t : State ω} {role jwt token : String} {r : Request} {response : Response}
      (before : Does c o s deeds t) (loggedOut : t.token = none)
      (last : deeds.getLast? = some (.sent r (.ok response))) (login : c.IsLogin role jwt r)
      (given : loginToken response = .ok token) :
      Does c o s (deeds ++ [.took token]) { t with token := some token }

theorem Does.trans (first : Does c o s deeds t) (second : Does c o t more u) : Does c o s (deeds ++ more) u := by
  induction second with
  | nothing =>
    rw [List.append_nil]
    exact first
  | send before built ih =>
    rw [← List.append_assoc]
    exact .send ih built
  | take before loggedOut last login given ih =>
    rw [← List.append_assoc]
    refine .take ih loggedOut ?_ login given
    -- The login that was sent just before is still the last deed.
    rw [List.getLast?_append, last]
    rfl

/-- What is so of the token and the requests of a client that did `deeds`. -/
structure Lives (c : Client) (s t : State ω) (deeds : List Deed) : Prop where
  held : t.token = heldAfter s.token deeds
  sent : t.sent = s.sent ++ deeds.filterMap Deed.request?
  /-- Every request carries the token that is held when it is sent, the namespace, and no other header of its own. -/
  carried : ∀ before r answer after, deeds = before ++ .sent r answer :: after →
    r.headers = c.headers (heldAfter s.token before) ∧
      r.header? tokenHeader = heldAfter s.token before ∧ r.header? namespaceHeader = c.namespace
  once : deeds.countP Deed.isTaking ≤ 1
  kept : ∀ token, s.token = some token → deeds.countP Deed.isTaking = 0
  earned : ∀ before token after, deeds = before ++ .took token :: after →
    token ≠ "" ∧ ∃ earlier role jwt r response, before = earlier ++ [.sent r (.ok response)] ∧ c.IsLogin role jwt r ∧
      response.isSuccess = true ∧ token? response.body = some (some token)

theorem namespace_headers (c : Client) (token : Option String) :
    lookup namespaceHeader (c.headers token) = c.namespace := by
  have other : tokenHeader ≠ namespaceHeader := by decide
  cases token with
  | some text => cases space : c.namespace <;> simp [headers, lookup, space, other]
  | none => cases space : c.namespace <;> simp [headers, lookup, space]

theorem Does.counted (does : Does c o s deeds t) :
    deeds.countP Deed.isTaking + (if s.token.isSome then 1 else 0) = if t.token.isSome then 1 else 0 := by
  induction does with
  | nothing => simp
  | send before built ih =>
    rw [List.countP_append, List.countP_singleton]
    simpa [Deed.isTaking] using ih
  | take before loggedOut last login given ih =>
    rw [loggedOut] at ih
    rw [List.countP_append, List.countP_singleton]
    simp only [Deed.isTaking, Option.isSome_none, Option.isSome_some, Bool.false_eq_true, if_true, if_false] at ih ⊢
    omega

theorem Does.token_kept {token : String} (does : Does c o s deeds t) (holds : s.token = some token) :
    t.token = some token := by
  induction does with
  | nothing => exact holds
  | send before built ih => exact ih
  | take before loggedOut last login given ih => cases ih.symm.trans loggedOut

theorem Does.held (does : Does c o s deeds t) : t.token = heldAfter s.token deeds := by
  induction does with
  | nothing => rfl
  | send before built ih =>
    rw [heldAfter_sent]
    exact ih
  | take before loggedOut last login given ih =>
    rw [heldAfter_took]

theorem Does.sent (does : Does c o s deeds t) : t.sent = s.sent ++ deeds.filterMap Deed.request? := by
  induction does with
  | nothing => exact (List.append_nil _).symm
  | send before built ih =>
    rw [ih, List.filterMap_append, ← List.append_assoc]
    rfl
  | take before loggedOut last login given ih =>
    rw [ih, List.filterMap_append]
    exact congrArg (s.sent ++ ·) (List.append_nil _).symm

theorem Does.carried {before after : List Deed} {r : Request} {answer : Except TransportError Response}
    (does : Does c o s deeds t) (whole : deeds = before ++ .sent r answer :: after) :
    r.headers = c.headers (heldAfter s.token before) := by
  -- The request is the last deed, and then the state before it holds what `before` tells, or it is an earlier one.
  induction does generalizing after with
  | nothing => simp at whole
  | send earlier built ih =>
    rcases split_concat whole with ⟨rfl, same, rfl⟩ | ⟨later, rfl, front⟩
    · cases same
      rw [← earlier.held]
      exact Request.headers_build built
    · exact ih front
  | take earlier loggedOut last login given ih =>
    rcases split_concat whole with ⟨-, wrong, -⟩ | ⟨later, rfl, front⟩
    · cases wrong
    · exact ih front

theorem Does.earned {before after : List Deed} {token : String} (does : Does c o s deeds t)
    (whole : deeds = before ++ .took token :: after) :
    token ≠ "" ∧ ∃ earlier role jwt r response, before = earlier ++ [.sent r (.ok response)] ∧ c.IsLogin role jwt r ∧
      response.isSuccess = true ∧ token? response.body = some (some token) := by
  induction does generalizing after with
  | nothing => simp at whole
  | send earlier built ih =>
    rcases split_concat whole with ⟨-, wrong, -⟩ | ⟨later, rfl, front⟩
    · cases wrong
    · exact ih front
  | @take deeds t role jwt taken r response earlier loggedOut last login given ih =>
    rcases split_concat whole with ⟨rfl, same, rfl⟩ | ⟨later, rfl, front⟩
    · cases same
      obtain ⟨success, found, nonempty⟩ := loginToken_eq_ok_iff.mp given
      obtain ⟨front, ends⟩ := List.getLast?_eq_some_iff.mp last
      exact ⟨nonempty, front, role, jwt, r, response, ends, login, success, found⟩
    · exact ih front

theorem Does.lives (does : Does c o s deeds t) : Lives c s t deeds where
  held := does.held
  sent := does.sent
  carried := by
    intro before r answer after whole
    have headers := does.carried whole
    refine ⟨headers, ?_, ?_⟩
    · rw [Request.header?, headers, c.header?_headers]
    · rw [Request.header?, headers, c.namespace_headers]
  once := by
    have counted := does.counted
    split at counted
    · split at counted <;> omega
    · split at counted <;> omega
  kept := by
    intro token holds
    have counted := does.counted
    rw [holds, Option.isSome_some, if_pos rfl] at counted
    split at counted
    · omega
    · omega
  earned := by
    intro before token after whole
    exact does.earned whole

theorem does_ask (c : Client) (o : Outside ω) (method : Method) (path : String) (body : Option String) (s : State ω) :
    ((∀ r, Request.build method (c.url path) (c.headers s.token) body ≠ .ok r) ∧
        ∃ cause, c.ask o method path body s = (.error cause, s)) ∨
      ∃ r, Request.build method (c.url path) (c.headers s.token) body = .ok r ∧
        Does c o s [.sent r (c.ask o method path body s).1] (c.ask o method path body s).2 ∧
        (c.ask o method path body s).2.token = s.token := by
  unfold ask
  cases built : Request.build method (c.url path) (c.headers s.token) body with
  | error cause => exact .inl ⟨by simp, cause, rfl⟩
  | ok r => exact .inr ⟨r, rfl, .send .nothing built, rfl⟩

theorem does_query {α : Type} (c : Client) (o : Outside ω) (path : String) (read : Response → Except StoreError α)
    (s : State ω) : ∃ deeds, Does c o s deeds (c.query o path read s).next := by
  have asks := c.does_ask o .get path none s
  unfold query
  generalize c.ask o .get path none s = answered at asks ⊢
  rcases asks with ⟨-, cause, rfl⟩ | ⟨r, -, does, -⟩
  · exact ⟨[], .nothing⟩
  · exact ⟨_, does⟩

theorem requestToken_eq (c : Client) (o : Outside ω) (role jwt : String) (s : State ω) :
    c.requestToken o role jwt s =
      let asked := c.ask o .post ("auth/" ++ c.loginMount ++ "/login") (some (loginBody role jwt.trimBlank)) s
      ((asked.1.mapError TransportError.message).bind loginToken, asked.2) := by
  unfold requestToken
  generalize c.ask o .post ("auth/" ++ c.loginMount ++ "/login") (some (loginBody role jwt.trimBlank)) s = asked
  obtain ⟨answer, after⟩ := asked
  cases answer <;> rfl

theorem confirmToken_eq (c : Client) (o : Outside ω) (s : State ω) :
    c.confirmToken o s =
      let asked := c.ask o .get "auth/token/lookup-self" none s
      ((asked.1.mapError fun cause => "no token found in Vault client: " ++ cause.message).bind tokenAccepted,
        asked.2) := by
  unfold confirmToken
  generalize c.ask o .get "auth/token/lookup-self" none s = asked
  obtain ⟨answer, after⟩ := asked
  cases answer <;> rfl

theorem does_reading {α : Type} {method : Method} {path : String} {body : Option String}
    {failed : TransportError → String} {read : Response → Except String α} {answer : Except String α}
    (outcome : (((c.ask o method path body s).1.mapError failed).bind read, (c.ask o method path body s).2) =
      (answer, t)) :
    ((∀ r, Request.build method (c.url path) (c.headers s.token) body ≠ .ok r) ∧ t = s ∧ ∀ value, answer ≠ .ok value) ∨
      ∃ r sent, Request.build method (c.url path) (c.headers s.token) body = .ok r ∧ Does c o s [.sent r sent] t ∧
        t.token = s.token ∧
        ∀ value, answer = .ok value ↔ ∃ response, sent = .ok response ∧ read response = .ok value := by
  rcases c.does_ask o method path body s with ⟨unbuilt, cause, unsent⟩ | ⟨r, built, does, held⟩
  · rw [unsent] at outcome
    cases outcome
    exact .inl ⟨unbuilt, rfl, by simp [Except.mapError, Except.bind]⟩
  · cases outcome
    refine .inr ⟨r, _, built, does, held, fun value => ?_⟩
    cases (c.ask o method path body s).1 with
    | error cause => simp [Except.mapError, Except.bind]
    | ok response => simp [Except.mapError, Except.bind]

theorem does_requestToken {role jwt : String} (loggedOut : s.token = none) {answer : Except String String}
    (request : c.requestToken o role jwt s = (answer, t)) :
    ((∀ r, ¬ c.IsLogin role jwt r) ∧ t = s ∧ ∀ token, answer ≠ .ok token) ∨
      ∃ r sent, c.IsLogin role jwt r ∧ Does c o s [.sent r sent] t ∧ t.token = none ∧
        ∀ token, answer = .ok token ↔ ∃ response, sent = .ok response ∧ loginToken response = .ok token := by
  rw [requestToken_eq] at request
  have read := does_reading request
  rw [loggedOut] at read
  exact read

theorem does_confirmToken {token : String} (holds : s.token = some token) {answer : Except String Unit}
    (confirm : c.confirmToken o s = (answer, t)) :
    ((∀ r, ¬ c.IsLookup token r) ∧ t = s ∧ answer ≠ .ok ()) ∨
      ∃ r sent, c.IsLookup token r ∧ Does c o s [.sent r sent] t ∧
        (answer = .ok () ↔ ∃ response, sent = .ok response ∧ tokenAccepted response = .ok ()) := by
  rw [confirmToken_eq] at confirm
  have read := does_reading confirm
  rw [holds] at read
  rcases read with ⟨unbuilt, same, failed⟩ | ⟨r, sent, built, does, -, accepts⟩
  · exact .inl ⟨unbuilt, same, failed ()⟩
  · exact .inr ⟨r, sent, built, does, accepts ()⟩

inductive LoginFor (c : Client) (o : Outside ω) (s : State ω) : Option String → Request → Prop
  | presented {role jwt : String} {r : Request} (readable : o.readText c.jwtPath s.outside = .ok jwt)
      (login : c.IsLogin role jwt r) : LoginFor c o s (some role) r

/-- Why a client can send no login under a role. -/
inductive NoLogin (c : Client) (o : Outside ω) (s : State ω) : Option String → Prop
  | noRole : NoLogin c o s none
  | unread {role : String} {cause : FileError} (unreadable : o.readText c.jwtPath s.outside = .error cause) :
      NoLogin c o s (some role)
  | unbuilt {role jwt : String} (readable : o.readText c.jwtPath s.outside = .ok jwt)
      (unbuilt : ∀ r, ¬ c.IsLogin role jwt r) : NoLogin c o s (some role)

/-- What a client without a token does to log in, and how that ends. -/
inductive Tries (c : Client) (o : Outside ω) (s : State ω) (role : Option String) :
    List Deed → Except Failure Unit → Prop
  | silent (noLogin : NoLogin c o s role) (cause : Failure) : Tries c o s role [] (.error cause)
  | refused {login : Request} {answer : Except TransportError Response} (logsIn : LoginFor c o s role login)
      (refused : ∀ response token, answer = .ok response → ¬ Grants response token) (cause : Failure) :
      Tries c o s role [.sent login answer] (.error cause)
  | unasked {login : Request} {response : Response} {token : String} (logsIn : LoginFor c o s role login)
      (grants : Grants response token) (noLookup : ∀ r, ¬ c.IsLookup token r) (cause : Failure) :
      Tries c o s role [.sent login (.ok response), .took token] (.error cause)
  | unconfirmed {login lookup : Request} {response : Response} {token : String}
      {answer : Except TransportError Response} (logsIn : LoginFor c o s role login) (grants : Grants response token)
      (looksUp : c.IsLookup token lookup) (refused : ∀ found, answer = .ok found → ¬ Accepts found) (cause : Failure) :
      Tries c o s role [.sent login (.ok response), .took token, .sent lookup answer] (.error cause)
  | confirmed {login lookup : Request} {response found : Response} {token : String}
      (logsIn : LoginFor c o s role login) (grants : Grants response token) (looksUp : c.IsLookup token lookup)
      (accepts : Accepts found) :
      Tries c o s role [.sent login (.ok response), .took token, .sent lookup (.ok found)] (.ok ())

/-- A login that is answered with a token is sent, and the token is held from then on. -/
theorem does_login {role jwt token : String} (loggedOut : s.token = none)
    (request : c.requestToken o role jwt s = (.ok token, t)) :
    ∃ login response, c.IsLogin role jwt login ∧ Grants response token ∧
      Does c o s [.sent login (.ok response), .took token] { t with token := some token } := by
  rcases does_requestToken loggedOut request with ⟨-, -, failed⟩ | ⟨login, sent, isLogin, does, held, gives⟩
  · exact absurd rfl (failed token)
  · obtain ⟨response, rfl, given⟩ := (gives token).mp rfl
    exact ⟨login, response, isLogin, loginToken_eq_ok_iff.mp given, .take does held rfl isLogin given⟩

theorem Attempt.tries {role : Option String} {answer : Except Failure Unit} (attempt : Attempt c o s role answer t)
    (loggedOut : s.token = none) : ∃ deeds, Does c o s deeds t ∧ Tries c o s role deeds answer := by
  cases attempt with
  | noRole => exact ⟨[], .nothing, .silent .noRole _⟩
  | unread _ unreadable => exact ⟨[], .nothing, .silent (.unread unreadable) _⟩
  | refused readable request =>
    rcases does_requestToken loggedOut request with ⟨unbuilt, rfl, -⟩ | ⟨login, sent, isLogin, does, -, gives⟩
    · exact ⟨[], .nothing, .silent (.unbuilt readable unbuilt) _⟩
    · refine ⟨_, does, .refused ⟨readable, isLogin⟩ (fun response token same grants => ?_) _⟩
      cases (gives token).mpr ⟨response, same, loginToken_eq_ok_iff.mpr grants⟩
  | unconfirmed readable request confirm =>
    obtain ⟨login, response, isLogin, grants, takes⟩ := does_login loggedOut request
    -- The token is held from here on, whether the lookup is sent or not.
    rcases does_confirmToken rfl confirm with ⟨unbuilt, rfl, -⟩ | ⟨lookup, sent, isLookup, does, accepted⟩
    · exact ⟨_, takes, .unasked ⟨readable, isLogin⟩ grants unbuilt _⟩
    · refine ⟨_, takes.trans does, .unconfirmed ⟨readable, isLogin⟩ grants isLookup (fun found same accepts => ?_) _⟩
      cases accepted.mpr ⟨found, same, tokenAccepted_eq_ok_iff.mpr accepts⟩
  | confirmed readable request confirm =>
    obtain ⟨login, response, isLogin, grants, takes⟩ := does_login loggedOut request
    rcases does_confirmToken rfl confirm with ⟨-, -, failed⟩ | ⟨lookup, sent, isLookup, does, accepted⟩
    · exact absurd rfl failed
    · obtain ⟨found, rfl, accepts⟩ := accepted.mp rfl
      exact ⟨_, takes.trans does,
        .confirmed ⟨readable, isLogin⟩ grants isLookup (tokenAccepted_eq_ok_iff.mp accepts)⟩

theorem does_authenticate (c : Client) (o : Outside ω) (role : Option String) (s : State ω) :
    ∃ deeds, Does c o s deeds (c.authenticate o role s).next := by
  cases held : s.token with
  | some token =>
    rw [next_authenticate_of_token held]
    exact ⟨[], .nothing⟩
  | none =>
    obtain ⟨deeds, does, -⟩ := (attempt_authenticate c o role held).tries held
    exact ⟨deeds, does⟩

theorem does_after (c : Client) (o : Outside ω) (call : Call) (s : State ω) :
    ∃ deeds, Does c o s deeds ((c.store o).after call s) := by
  cases call with
  | authenticate role => exact c.does_authenticate o role s
  | mountVersion path => exact c.does_query o ("sys/internal/ui/mounts/" ++ path.stripChar '/') Vault.mountVersion s
  | read path => exact c.does_query o path document s

theorem does_afterAll (c : Client) (o : Outside ω) (calls : List Call) (s : State ω) :
    ∃ deeds, Does c o s deeds ((c.store o).afterAll calls s) := by
  induction calls generalizing s with
  | nil => exact ⟨[], .nothing⟩
  | cons call rest ih =>
    obtain ⟨first, does⟩ := c.does_after o call s
    obtain ⟨later, rest⟩ := ih ((c.store o).after call s)
    exact ⟨_, does.trans rest⟩

/-- Whatever calls are made of a client and whatever the network answers, the client takes a token at most once, from
    a login that gives it, and keeps it, and what it sends carries what it holds. A client without a token logs in
    with one request, and looks the token up with one more before it counts as logged in. -/
theorem token_life (c : Client) (o : Outside ω) (s : State ω) (calls : List Call) :
    let t := (c.store o).afterAll calls s
    (∃ deeds, Does c o s deeds t ∧ Lives c s t deeds) ∧
    (∀ token later, t.token = some token → ((c.store o).afterAll (calls ++ later) s).token = some token) ∧
    ∀ role, let reply := (c.store o).authenticate role t
      (∀ token, t.token = some token → reply.answer = .ok () ∧ reply.next = t) ∧
      (t.token = none → ∃ deeds, Does c o t deeds reply.next ∧ Tries c o t role deeds reply.answer) := by
  intro t
  refine ⟨?_, ?_, ?_⟩
  · obtain ⟨deeds, does⟩ := c.does_afterAll o calls s
    exact ⟨deeds, does, does.lives⟩
  · intro token later holds
    rw [Store.afterAll_append]
    obtain ⟨deeds, does⟩ := c.does_afterAll o later t
    exact does.token_kept holds
  · intro role reply
    refine ⟨fun token holds => ?_, fun loggedOut => ?_⟩
    · exact ⟨answer_authenticate_of_token holds role, next_authenticate_of_token holds role⟩
    · exact (attempt_authenticate c o role loggedOut).tries loggedOut

end Client

end Vault

end SecretTemplate
