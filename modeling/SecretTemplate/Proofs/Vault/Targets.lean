import SecretTemplate.Proofs.Placeholder.Tokens
import SecretTemplate.Proofs.Url.Authority
import SecretTemplate.Proofs.Url.Segments
import SecretTemplate.Proofs.Vault.Address

namespace SecretTemplate.Vault

open Http (Outside Request)
open Placeholder (ReadFor isTokenChar)
open Text (dropEnd splitAll)
open Url (Part Path encode endsPath readMarked_keeps)

/-- What a URL keeps of a path: no slashes in front, and no characters at the end that no text shows. -/
def spelled (path : List Char) : List Char := dropEnd (fun c => c.toNat ≤ 0x20) (path.dropWhile (· == '/'))

def pathPart (path : List Char) : List Char := path.takeWhile (!endsPath ·)

def queryPart (path : List Char) : List Char := path.dropWhile (!endsPath ·)

theorem pathPart_append_queryPart (path : List Char) : pathPart path ++ queryPart path = path :=
  List.takeWhile_append_dropWhile

/-- A path that a URL takes up as it stands, but for characters that it has to escape. -/
structure Straight (path : List Char) : Prop where
  spelled : spelled path = path
  whole : '#' ∉ path
  slashed : '\\' ∉ pathPart path
  undotted : ∀ part ∈ splitAll '/' (pathPart path), Path.isDoubleDot part = false ∧ Path.isSingleDot part = false
  unescapedPath : Part.path.Unescaped (fun c => isTokenChar c && !endsPath c) (pathPart path)
  unescapedQuery : Part.specialQuery.Unescaped (fun c => isTokenChar c && c != '#') (queryPart path)

theorem Straight.stays {path : List Char} (straight : Straight path) :
    Path.Stays 0 (Path.parts (pathPart (Vault.spelled path))) := by
  rw [straight.spelled, Path.parts_of_notMem straight.slashed]
  exact Path.stays_of_plain straight.undotted 0

namespace Server

variable (server : Server)

theorem opened_eq (cs : List Char) :
    server.opened cs = Url.readMarked
      { server.root with path := .segments (Path.read true false [] ("/v1/".toList ++ pathPart cs)) }
      (queryPart cs) := by
  have front : ("/v1/".toList ++ cs).takeWhile (!endsPath ·) = "/v1/".toList ++ pathPart cs :=
    List.takeWhile_append_of_pos (List.all_eq_true.mp (by decide))
  have back : ("/v1/".toList ++ cs).drop ("/v1/".toList ++ pathPart cs).length = queryPart cs := by
    have whole : "/v1/".toList ++ cs = ("/v1/".toList ++ pathPart cs) ++ queryPart cs := by
      rw [List.append_assoc, pathPart_append_queryPart]
    rw [whole, List.drop_left]
  have nonempty : ("/v1/".toList ++ pathPart cs).isEmpty = false := rfl
  unfold opened Url.readPath
  dsimp only
  rw [front, back, nonempty]
  rfl

theorem query_readMarked {u : Url} (special : u.scheme = "http") {cs : List Char} (whole : '#' ∉ cs)
    (shape : cs = [] ∨ ∃ query, cs = '?' :: query) :
    (Url.markedText "?" (Url.readMarked u cs).query).toList = encode .specialQuery cs := by
  have single : Text.splitFirst '#' cs = none := Text.splitFirst_eq_none.mpr whole
  have mark : Url.encodeChar .specialQuery '?' = ['?'] := by decide
  have part : (Url.isNetworked "http" || "http" = "file") = true := by decide
  unfold Url.readMarked
  rw [single, special]
  rcases shape with rfl | ⟨query, rfl⟩
  · rfl
  · simp only [part, if_true, Url.markedText, String.toList_append, String.toList_ofList, Url.encode_cons, mark]
    rfl

theorem queryPart_shape {path : List Char} (whole : '#' ∉ path) :
    queryPart path = [] ∨ ∃ query, queryPart path = '?' :: query := by
  cases shape : queryPart path with
  | nil => exact .inl rfl
  | cons c query =>
    have first := List.head?_dropWhile_not (!endsPath ·) path
    have member : c ∈ path := by
      rw [← pathPart_append_queryPart path, shape]
      exact List.mem_append_right _ (List.mem_cons_self ..)
    rw [show path.dropWhile (!endsPath ·) = c :: query from shape] at first
    have mark : c = '?' ∨ c = '#' := by
      rw [or_iff_not_imp_left]
      simpa [endsPath] using first
    rcases mark with rfl | rfl
    · exact .inr ⟨query, rfl⟩
    · exact (whole member).elim

theorem target_opened {path : List Char} (straight : Straight path) :
    (server.opened path).target.toList =
      "/v1/".toList ++ (encode .path (pathPart path) ++ encode .specialQuery (queryPart path)) := by
  have free : '#' ∉ queryPart path := fun member => straight.whole ((List.dropWhile_suffix _).subset member)
  have text := Path.toList_text_of_plain straight.slashed straight.undotted
  rw [Url.target, String.toList_append, opened_eq, (readMarked_keeps _ _).1, text,
    query_readMarked rfl free (queryPart_shape straight.whole), List.append_assoc]

theorem takeWhile_target {path : List Char} (straight : Straight path) :
    (encode .path (pathPart path) ++ encode .specialQuery (queryPart path)).takeWhile (· != '?') =
      encode .path (pathPart path) := by
  have free : '?' ∉ pathPart path := by
    intro member
    have wrong := List.mem_takeWhile_imp member
    simp [endsPath] at wrong
  have unmarked : '?' ∉ encode .path (pathPart path) := Url.notMem_encode free (by decide) (by decide)
  have before (c : Char) (member : c ∈ encode .path (pathPart path)) : (c != '?') = true := by
    rw [bne_iff_ne]
    rintro rfl
    exact unmarked member
  rw [List.takeWhile_append_of_pos before]
  rcases queryPart_shape straight.whole with empty | ⟨query, marked⟩
  · rw [empty]
    exact List.append_nil _
  · rw [marked, Url.encode_cons, show Url.encodeChar .specialQuery '?' = ['?'] by decide]
    exact List.append_nil _

theorem target_injective {path path' : List Char} (straight : Straight path) (straight' : Straight path')
    (tokens : ∀ c ∈ path, isTokenChar c = true) (tokens' : ∀ c ∈ path', isTokenChar c = true)
    (same : (server.opened path).target = (server.opened path').target) : path = path' := by
  have inPath {path : List Char} (tokens : ∀ c ∈ path, isTokenChar c = true) :
      ∀ c ∈ pathPart path, (isTokenChar c && !endsPath c) = true := by
    intro c member
    rw [tokens c (List.takeWhile_subset _ member), List.mem_takeWhile_imp member]
    rfl
  have inQuery {path : List Char} (tokens : ∀ c ∈ path, isTokenChar c = true) (straight : Straight path) :
      ∀ c ∈ queryPart path, (isTokenChar c && c != '#') = true := by
    intro c member
    have inside : c ∈ path := (List.dropWhile_suffix _).subset member
    rw [tokens c inside, Bool.true_and, bne_iff_ne]
    rintro rfl
    exact straight.whole inside
  have texts := congrArg String.toList same
  rw [server.target_opened straight, server.target_opened straight', List.append_cancel_left_eq] at texts
  -- The first question mark of a target ends its path: none is left in the path by its escapes.
  have front := congrArg (List.takeWhile (· != '?')) texts
  rw [takeWhile_target straight, takeWhile_target straight'] at front
  rw [front, List.append_cancel_left_eq] at texts
  have paths := Url.encode_injective (inPath tokens) (inPath tokens') straight.unescapedPath
    straight'.unescapedPath front
  have queries := Url.encode_injective (inQuery tokens straight) (inQuery tokens' straight') straight.unescapedQuery
    straight'.unescapedQuery texts
  rw [← pathPart_append_queryPart path, paths, queries, pathPart_append_queryPart]

theorem name_ne_empty : server.name ≠ .domain "" := by
  have parsed := server.parsed
  intro empty
  rw [empty] at parsed
  unfold Url.Host.parse at parsed
  split at parsed
  · unfold Url.Host.bracketed at parsed
    split at parsed
    · split at parsed <;> cases parsed
    · cases parsed
  · split at parsed
    · cases parsed
    · cases parsed
    · rename_i name nonempty _
      dsimp only at parsed
      split at parsed
      · split at parsed <;> cases parsed
      · have same : String.ofList name = "" := by simpa using parsed
        exact nonempty (by simpa using congrArg String.toList same)

def asked (path : String) : Url := server.opened (Vault.spelled path.toList)

theorem parse_url {c : Client} (address : c.address = server.address) {path : String}
    (clear : ∀ d ∈ path.toList, d ≠ '\t' ∧ d ≠ '\n' ∧ d ≠ '\r') : Url.parse (c.url path) = .ok (server.asked path) := by
  rw [Client.url, address]
  exact server.parse_address fun d member => clear d ((List.dropWhile_suffix _).subset member)

theorem path_opened (cs : List Char) :
    (server.opened cs).path = .segments (Path.read true false [] ("/v1/".toList ++ pathPart cs)) := by
  rw [opened_eq]
  exact (readMarked_keeps _ _).1

theorem asked_root (path : String) :
    (server.asked path).scheme = "http" ∧ (server.asked path).host = some server.name ∧
      (server.asked path).port = server.port? ∧ (server.asked path).username = "" ∧
      (server.asked path).password = "" := by
  rw [asked, opened_eq]
  exact (readMarked_keeps _ _).2

theorem text_asked_of_stays {path : String}
    (stays : Path.Stays 0 (Path.parts (pathPart (Vault.spelled path.toList)))) :
    ∃ rest, (server.asked path).path.text true = "/v1/" ++ rest := by
  obtain ⟨rest, below⟩ := Path.text_of_stays stays
  refine ⟨rest, ?_⟩
  rw [asked, path_opened, below]

theorem asked_of_straight {path : String} (straight : Straight path.toList) :
    server.asked path = server.opened path.toList := by
  rw [asked, straight.spelled]

theorem build_get {c : Client} (address : c.address = server.address) {path : String}
    (clear : ∀ d ∈ path.toList, d ≠ '\t' ∧ d ≠ '\n' ∧ d ≠ '\r') (headers : List (String × String)) :
    Request.build .get (c.url path) headers none =
      if headers.all (fun h => Http.isHeaderText h.2) then
        if (server.asked path).text.utf8ByteSize ≤ Http.maxUrl then
          .ok { method := .get, url := server.asked path, headers }
        else .error (.unsupported (server.asked path).text)
      else .error .unbuildable := by
  obtain ⟨scheme, host, -, username, password⟩ := server.asked_root path
  have hasHost : (server.asked path).hasHost = true := by
    unfold Url.hasHost
    rw [host]
    split
    · rename_i none
      cases none
    · rename_i empty
      exact (server.name_ne_empty (Option.some.inj empty)).elim
    · rfl
  have bare : Http.takeCredentials (server.asked path) = (server.asked path, none) := by
    have none : Http.decoded? "" = some "" := by decide +kernel
    unfold Http.takeCredentials
    rw [username, password, none]
    rfl
  have reachable : Http.isReachable (server.asked path) =
      decide ((server.asked path).text.utf8ByteSize ≤ Http.maxUrl) := by
    unfold Http.isReachable
    rw [scheme, host]
    simp [server.accepted]
  unfold Request.build
  rw [server.parse_url address clear]
  simp only [hasHost, bare, reachable, Bool.not_true, Bool.false_eq_true, if_false, decide_eq_true_eq]
  cases headers.all fun h => Http.isHeaderText h.2 <;> rfl

end Server

variable {ω : Type}

theorem Client.sent_read (c : Client) (o : Outside ω) (path : String) (s : State ω) :
    (c.read o path s).next.sent =
      s.sent ++ (Request.build .get (c.url path) (c.headers s.token) none).toOption.toList := by
  unfold read query ask
  cases Request.build .get (c.url path) (c.headers s.token) none with
  | error cause => exact (List.append_nil _).symm
  | ok r => rfl

/-- The headers and the URL of a request for the path can be sent. -/
def Server.Sendable (server : Server) (c : Client) (token : Option String) (path : String) : Prop :=
  (c.headers token).all (fun h => Http.isHeaderText h.2) = true ∧ (server.asked path).text.utf8ByteSize ≤ Http.maxUrl

theorem Client.sent_of_sendable {server : Server} {c : Client} (address : c.address = server.address) {path : String}
    (clear : ∀ d ∈ path.toList, d ≠ '\t' ∧ d ≠ '\n' ∧ d ≠ '\r') (o : Outside ω) (s : State ω)
    (sendable : server.Sendable c s.token path) :
    (c.read o path s).next.sent =
      s.sent ++ [{ method := .get, url := server.asked path, headers := c.headers s.token }] := by
  rw [sent_read, server.build_get address clear, if_pos sendable.1, if_pos sendable.2]
  rfl

theorem Client.sent_of_not_sendable {server : Server} {c : Client} (address : c.address = server.address)
    {path : String} (clear : ∀ d ∈ path.toList, d ≠ '\t' ∧ d ≠ '\n' ∧ d ≠ '\r') (o : Outside ω) (s : State ω)
    (unsendable : ¬ server.Sendable c s.token path) : (c.read o path s).next.sent = s.sent := by
  rw [sent_read, server.build_get address clear]
  by_cases headers : (c.headers s.token).all (fun h => Http.isHeaderText h.2) = true
  · have long : ¬ (server.asked path).text.utf8ByteSize ≤ Http.maxUrl := fun short => unsendable ⟨headers, short⟩
    rw [if_pos headers, if_neg long]
    exact List.append_nil _
  · rw [if_neg headers]
    exact List.append_nil _

theorem Client.eq_of_sent {server : Server} {c : Client} (address : c.address = server.address) {path : String}
    (clear : ∀ d ∈ path.toList, d ≠ '\t' ∧ d ≠ '\n' ∧ d ≠ '\r') {o : Outside ω} {s : State ω} {r : Request}
    (sent : (c.read o path s).next.sent = s.sent ++ [r]) :
    r = { method := .get, url := server.asked path, headers := c.headers s.token } := by
  by_cases sendable : server.Sendable c s.token path
  · rw [sent_of_sendable address clear o s sendable] at sent
    exact (List.cons.inj (List.append_cancel_left sent)).1.symm
  · rw [sent_of_not_sendable address clear o s sendable] at sent
    have length := congrArg List.length sent
    rw [List.length_append, List.length_singleton] at length
    omega

/-- Every read is a single GET to the server of the address, if it can be sent. What is asked there lies below the root
    of the interface unless the path climbs above it, and straight paths that differ are asked for in different ways. -/
theorem Client.read_targets {server : Server} {c : Client} (address : c.address = server.address) {path path' : String}
    (extracted : ReadFor path) (extracted' : ReadFor path') (o o' : Outside ω) (s s' : State ω) :
    (server.Sendable c s.token path → ∃ r, (c.read o path s).next.sent = s.sent ++ [r]) ∧
    (¬ server.Sendable c s.token path → (c.read o path s).next.sent = s.sent) ∧
    ∀ r, (c.read o path s).next.sent = s.sent ++ [r] →
      (r.method = .get ∧ r.url.scheme = "http" ∧ r.url.host = some server.name ∧ r.url.port = server.port?) ∧
      (Path.Stays 0 (Path.parts (pathPart (spelled path.toList))) → ∃ rest, r.url.path.text true = "/v1/" ++ rest) ∧
      ∀ r', (c.read o' path' s').next.sent = s'.sent ++ [r'] → Straight path.toList → Straight path'.toList →
        path ≠ path' → r.url.target ≠ r'.url.target := by
  have clear {path : String} (extracted : ReadFor path) : ∀ d ∈ path.toList, d ≠ '\t' ∧ d ≠ '\n' ∧ d ≠ '\r' := by
    intro d member
    have token := extracted.tokens d member
    refine ⟨?_, ?_, ?_⟩ <;> rintro rfl <;> exact absurd token (by decide)
  refine ⟨fun sendable => ⟨_, sent_of_sendable address (clear extracted) o s sendable⟩,
    sent_of_not_sendable address (clear extracted) o s, fun r sent => ?_⟩
  obtain rfl := eq_of_sent address (clear extracted) sent
  obtain ⟨scheme, host, port, -, -⟩ := server.asked_root path
  refine ⟨⟨rfl, scheme, host, port⟩, server.text_asked_of_stays, fun r' sent' straight straight' different same => ?_⟩
  obtain rfl := eq_of_sent address (clear extracted') sent'
  dsimp only at same
  rw [server.asked_of_straight straight, server.asked_of_straight straight'] at same
  exact different (String.toList_inj.mp
    (server.target_injective straight straight' extracted.tokens extracted'.tokens same))

theorem loopback_plain : ∀ c ∈ "127.0.0.1".toList,
    Url.endsAuthority true c = false ∧ c ≠ '@' ∧ c ≠ '\t' ∧ c ≠ '\n' ∧ c ≠ '\r' := by
  simp [Url.endsAuthority]

theorem loopback_parsed : Url.Host.parse "127.0.0.1".toList = .ok (.ipv4 0x7F000001) := by
  have parsed : (Url.Host.parse "127.0.0.1".toList).toOption = some (.ipv4 0x7F000001) := by decide +kernel
  cases outcome : Url.Host.parse "127.0.0.1".toList with
  | error cause =>
    rw [outcome] at parsed
    cases parsed
  | ok name =>
    rw [outcome] at parsed
    cases parsed
    rfl

theorem loopback_digits : ∀ c ∈ "8200".toList, c.isDigit = true := List.all_eq_true.mp (by decide)

def loopback : Server where
  host := "127.0.0.1".toList
  port := "8200".toList
  name := .ipv4 0x7F000001
  plain := loopback_plain
  ends _ := rfl
  parsed := loopback_parsed
  accepted := by decide +kernel
  digits := loopback_digits
  bounded := by decide

def loopbackClient : Client := ⟨loopback.address, none, "kubernetes", "token"⟩

def silent : Outside Unit where
  send _ _ := (none, ())
  readText _ _ := .error .notFound

def unasked : State Unit := { token := none, outside := () }

theorem straight_secret {path : List Char} (one : path = "secret/a".toList ∨ path = "secret/b".toList) :
    Straight path := by
  rcases one with rfl | rfl
  all_goals
    exact ⟨by decide, by decide, by decide, by decide, Url.unescaped_of_notMem (by decide),
      Url.unescaped_of_notMem (by decide)⟩

theorem Client.read_targets_two_secrets :
    ∃ r r', (loopbackClient.read silent "secret/a" unasked).next.sent = [r] ∧
      (loopbackClient.read silent "secret/b" unasked).next.sent = [r'] ∧
      (∃ rest, r.url.path.text true = "/v1/" ++ rest) ∧ r.url.target ≠ r'.url.target := by
  have first : ReadFor "secret/a" :=
    ⟨Text.Utf8.encode "{{secret/a!k}}", "{{secret/a!k}}", _, .flat, by decide +kernel, rfl, by decide⟩
  have second : ReadFor "secret/b" :=
    ⟨Text.Utf8.encode "{{secret/b!k}}", "{{secret/b!k}}", _, .flat, by decide +kernel, rfl, by decide⟩
  have address : loopbackClient.address = loopback.address := rfl
  obtain ⟨sends, -, targets⟩ := read_targets address first second silent silent unasked unasked
  obtain ⟨sends', -⟩ := read_targets address second first silent silent unasked unasked
  obtain ⟨r, sent⟩ := sends ⟨by decide, by decide +kernel⟩
  obtain ⟨r', sent'⟩ := sends' ⟨by decide, by decide +kernel⟩
  obtain ⟨-, below, apart⟩ := targets r sent
  have straight : Straight "secret/a".toList := straight_secret (.inl rfl)
  have straight' : Straight "secret/b".toList := straight_secret (.inr rfl)
  exact ⟨r, r', sent, sent', below straight.stays, apart r' sent' straight straight' (by decide)⟩

/-- Paths that differ may be asked for in one way, and a path may climb out of the interface. -/
theorem Client.targets_shared :
    let paths := ["s\\a", "s/a", "s/a#x", "s/./a", "s/%22", "s/\"", "../sys/health"]
    let template := Text.Utf8.encode (.join (paths.map fun path => "\x7b\x7b" ++ path ++ "!k\x7d\x7d"))
    let readPath (p : String) := (Reference.parse p).toOption.map fun r => Engine.Shape.flat.readPath r.storePath
    let targets (path : String) := (loopbackClient.read silent path unasked).next.sent.map fun r => r.url.target
    (Placeholder.find template).filterMap readPath = paths ∧
      paths.map targets = [["/v1/s/a"], ["/v1/s/a"], ["/v1/s/a"], ["/v1/s/a"], ["/v1/s/%22"], ["/v1/s/%22"],
        ["/sys/health"]] := by
  decide +kernel

end SecretTemplate.Vault
