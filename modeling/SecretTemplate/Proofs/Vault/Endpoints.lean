import SecretTemplate.Proofs.Url.Below
import SecretTemplate.Settings.Check
import SecretTemplate.Vault.Client

namespace SecretTemplate.Vault

open Http (Method Request takeCredentials)
open Text (dropEnd exists_dropped splitAll)
open Url (Opening Part Path exists_opening cleanFront literal_nil)

def isPlainPath (path : String) : Bool :=
  (splitAll '/' path.toList).all fun part => !part.isEmpty && part.all fun c => c.isAlphanum || c == '-' || c == '_'

namespace Client

/-- A path is asked for below the URL `u`, on the same server. -/
structure Reaches (c : Client) (u : Url) (path : String) : Prop where
  read : ∃ v, Url.parse (c.url path) = .ok v ∧ u.Below ("/v1/" ++ path) v
  sent : ∀ method headers body r, Request.build method (c.url path) headers body = .ok r →
    u.Below ("/v1/" ++ path) r.url

/-- A slash behind the address is read as one below the URL `u`. -/
def Rooted (c : Client) (u : Url) : Prop := ∃ w, Url.parse (c.address ++ "/") = .ok w ∧ u.Below "/" w

/-- An address without a query and a fragment, whose path is read without empty segments before the slashes that the
    client takes off. -/
structure Clear (c : Client) (address : String) : Prop where
  query : '?' ∉ address.toList
  fragment : '#' ∉ address.toList
  path : ∀ w, Url.parse (c.address ++ "/") = .ok w → ¬ "//".toList <:+ (w.path.text true).toList

end Client

theorem plain_ascii : ∀ n < 128, let c := Char.ofNat n
    c.isAlphanum = true ∨ c = '-' ∨ c = '_' →
      Part.path.escapes c = false ∧ c ≠ '\\' ∧ c.toLower ≠ '.' ∧ c.toLower ≠ '%' := by
  decide +kernel

theorem plain_char {c : Char} (plain : c.isAlphanum = true ∨ c = '-' ∨ c = '_') :
    Part.path.escapes c = false ∧ c ≠ '\\' ∧ c.toLower ≠ '.' ∧ c.toLower ≠ '%' := by
  have small : c.toNat < 128 := by
    rcases plain with letter | rfl | rfl
    · rcases Bool.or_eq_true_iff.mp letter with alphabetic | digit
      · rcases Bool.or_eq_true_iff.mp alphabetic with upper | lower
        · exact (UInt32.le_iff_toNat_le.mp (of_decide_eq_true upper).2).trans_lt (by decide)
        · have bounds := Bool.and_eq_true_iff.mp lower
          exact (UInt32.le_iff_toNat_le.mp (of_decide_eq_true bounds.2)).trans_lt (by decide)
      · have bounds := Bool.and_eq_true_iff.mp digit
        exact (UInt32.le_iff_toNat_le.mp (of_decide_eq_true bounds.2)).trans_lt (by decide)
    · decide
    · decide
  have known := plain_ascii c.toNat small
  rw [Char.ofNat_toNat] at known
  exact known plain

theorem undotted_of_plain {part : List Char} (plain : ∀ c ∈ part, c.isAlphanum = true ∨ c = '-' ∨ c = '_') :
    Path.isDoubleDot part = false ∧ Path.isSingleDot part = false := by
  have apart (dots : List (List Char)) (marked : ∀ dot ∈ dots, dot.head? = some '.' ∨ dot.head? = some '%') :
      dots.contains (part.map Char.toLower) = false := by
    rw [Bool.eq_false_iff, ne_eq, List.contains_iff_mem]
    intro member
    have undotted (c : Char) (first : (part.map Char.toLower).head? = some c) : c ≠ '.' ∧ c ≠ '%' := by
      obtain ⟨d, inside, rfl⟩ := List.mem_map.mp (List.mem_of_head? first)
      exact (plain_char (plain d inside)).2.2
    rcases marked _ member with first | first
    · exact (undotted _ first).1 rfl
    · exact (undotted _ first).2 rfl
  exact ⟨apart _ (by decide), apart _ (by decide)⟩

theorem parts_of_plain {path : String} (plain : isPlainPath path = true) :
    ∀ part ∈ splitAll '/' path.toList, part ≠ [] ∧ ∀ c ∈ part, c.isAlphanum = true ∨ c = '-' ∨ c = '_' := by
  intro part inside
  have named := List.all_eq_true.mp plain part inside
  rw [Bool.and_eq_true, List.all_eq_true, Bool.not_eq_true', List.isEmpty_eq_false_iff] at named
  refine ⟨named.1, ?_⟩
  intro c member
  simpa [or_assoc] using named.2 c member

theorem literal_of_plain {path : String} (plain : isPlainPath path = true) :
    Path.Literal ("v1/".toList ++ path.toList) := by
  have root : ∀ c ∈ "v1/".toList, Part.path.escapes c = false ∧ c ≠ '\\' := by
    simp [Part.escapes, Url.isControl, Part.excluded]
  have chars (c : Char) (member : c ∈ path.toList) : Part.path.escapes c = false ∧ c ≠ '\\' := by
    rcases Text.mem_splitAll '/' member with rfl | ⟨part, inside, here⟩
    · decide
    · obtain ⟨unescaped, slashed, -⟩ := plain_char ((parts_of_plain plain part inside).2 c here)
      exact ⟨unescaped, slashed⟩
  have all (c : Char) (member : c ∈ "v1/".toList ++ path.toList) : Part.path.escapes c = false ∧ c ≠ '\\' :=
    (List.mem_append.mp member).elim (root c) (chars c)
  have split : splitAll '/' ("v1/".toList ++ path.toList) = ['v', '1'] :: splitAll '/' path.toList := rfl
  refine ⟨fun c member => (all c member).1, fun member => (all _ member).2 rfl, ?_⟩
  intro part member
  rw [split] at member
  rcases List.mem_cons.mp member with rfl | member
  · decide
  · exact undotted_of_plain (parts_of_plain plain part member).2

namespace Client

theorem url_of_plain (c : Client) {path : String} (plain : isPlainPath path = true) :
    c.url path = c.address ++ .ofList ('/' :: ("v1/".toList ++ path.toList)) := by
  have kept : path.toList.dropWhile (· == '/') = path.toList := by
    rw [Text.dropWhile_eq_self_iff]
    intro d first
    rw [beq_eq_false_iff_ne]
    rintro rfl
    obtain ⟨rest, whole⟩ := List.head?_eq_some_iff.mp first
    have named := (parts_of_plain plain [] (by rw [whole]; exact List.mem_cons_self ..)).1
    exact named rfl
  rw [url, kept, ← String.toList_inj]
  simp

theorem below_takeCredentials {u v : Url} {rest : String} (below : u.Below rest v) :
    u.Below rest (takeCredentials v).1 := by
  unfold takeCredentials
  generalize (if v.password = "" then none else Http.decoded? v.password) = word
  dsimp only
  split
  · split
    · exact below
    · exact ⟨below.scheme, below.host, below.port, below.query, below.fragment, below.path⟩
  · exact below

theorem below_of_build {u v : Url} {rest address : String} (read : Url.parse address = .ok v) (below : u.Below rest v)
    {method : Method} {headers : List (String × String)} {body : Option String} {r : Request}
    (built : Request.build method address headers body = .ok r) : u.Below rest r.url := by
  unfold Request.build at built
  simp only [read] at built
  split at built
  · cases built
  · split at built
    · cases built
    · split at built
      · cases built
        exact below_takeCredentials below
      · cases built

theorem reaches_iff (c : Client) {u : Url} (o : Opening (cleanFront c.address.toList)) (same : o.scheme = u.scheme)
    {path : String} (plain : isPlainPath path = true) : c.Reaches u path ↔ o.Leads u := by
  have literal := literal_of_plain plain
  have read : Url.parse (c.url path) = _ := (congrArg Url.parse (c.url_of_plain plain)).trans (Url.parse_append literal)
  have written : "/v1/" ++ path = .ofList ('/' :: ("v1/".toList ++ path.toList)) := by
    rw [← String.toList_inj]
    simp
  rw [o.leads_iff same literal, ← read, ← written]
  constructor
  · exact Reaches.read
  · rintro ⟨v, known, below⟩
    exact ⟨⟨v, known, below⟩, fun method headers body r built => below_of_build known below built⟩

theorem rooted_iff (c : Client) {u : Url} (o : Opening (cleanFront c.address.toList)) (same : o.scheme = u.scheme) :
    c.Rooted u ↔ o.Leads u := by
  have read : Url.parse (c.address ++ "/") = _ := Url.parse_append literal_nil
  rw [o.leads_iff same literal_nil, ← read]
  rfl

end Client

theorem web_of_accepted {s : Settings} (accepted : ∀ p ∈ s.problems.value, p.setting ≠ "vault.address") :
    ∃ u, Url.parse s.connection.address = .ok u ∧ (u.scheme = "http" ∨ u.scheme = "https") := by
  have inside (p : Problem) (member : p ∈ Settings.addressProblems s.connection.address) :
      p.setting ≠ "vault.address" := by
    apply accepted
    simp only [Settings.problems, List.mem_append]
    simp [member]
  unfold Settings.addressProblems at inside
  cases read : Url.parse s.connection.address with
  | error e =>
    rw [read] at inside
    exact absurd rfl (inside _ (List.mem_singleton.mpr rfl))
  | ok u =>
    refine ⟨u, rfl, ?_⟩
    by_contra other
    rw [read] at inside
    rw [not_or] at other
    have refused : (u.scheme != "http" && u.scheme != "https") = true := by simp [other]
    simp only [Settings.problemIf, refused, if_true] at inside
    exact inside _ (List.mem_singleton.mpr rfl) rfl

namespace Client

variable {connection : Connection}

theorem visible_slashes (n : Nat) : ∀ d ∈ List.replicate n '/', Url.isUnseen d = false := by
  intro d member
  rw [List.eq_of_mem_replicate member]
  rfl

theorem exists_slashes (connection : Connection) :
    ∃ n, connection.address.toList = (ofConnection connection).address.toList ++ List.replicate n '/' := by
  obtain ⟨slashes, whole, slashed⟩ := exists_dropped (· == '/') connection.address.toList
  have only := List.eq_replicate_of_mem fun d member => beq_iff_eq.mp (slashed d member)
  have address : (ofConnection connection).address.toList = _ := String.toList_ofList
  exact ⟨slashes.length, by rw [address, ← only, ← whole]⟩

theorem exists_opening_of_parse {u : Url} (read : Url.parse connection.address = .ok u)
    (web : u.scheme = "http" ∨ u.scheme = "https") :
    ∃ o : Opening (cleanFront (ofConnection connection).address.toList), o.scheme = u.scheme := by
  obtain ⟨n, whole⟩ := exists_slashes connection
  obtain ⟨dropped, split, -⟩ :=
    exists_dropped Url.isUnseen (cleanFront (ofConnection connection).address.toList ++ List.replicate n '/')
  rw [← Url.clean_append _ (visible_slashes n), ← whole] at split
  exact exists_opening (fun d member => List.eq_of_mem_replicate member) split read web

theorem rooted_iff_clear {u : Url} (o : Opening (cleanFront (ofConnection connection).address.toList))
    (same : o.scheme = u.scheme) (read : Url.parse connection.address = .ok u)
    (unpadded : Url.Unpadded connection.address.toList) :
    (ofConnection connection).Rooted u ↔ (ofConnection connection).Clear connection.address := by
  obtain ⟨n, whole⟩ := exists_slashes connection
  rw [whole] at unpadded
  have root : Url.parse ((ofConnection connection).address ++ "/") = _ := Url.parse_append literal_nil
  have marks {d : Char} (seen : Url.isUnseen d = false) (other : d ≠ '/') :
      d ∈ cleanFront (ofConnection connection).address.toList ↔ d ∈ connection.address.toList := by
    rw [Url.mem_cleanFront seen, whole, List.mem_append]
    exact (or_iff_left fun member => other (List.eq_of_mem_replicate member)).symm
  rw [Url.parse_eq, whole, Url.clean_append_of_unpadded (visible_slashes n) unpadded] at read
  rw [rooted_iff _ o same, o.leads_iff_of_read read, o.unmarked_iff, ← root, marks (by decide) (by decide),
    marks (by decide) (by decide)]
  constructor
  · rintro ⟨⟨query, fragment⟩, path⟩
    exact ⟨query, fragment, path⟩
  · rintro ⟨query, fragment, path⟩
    exact ⟨⟨query, fragment⟩, path⟩

end Client

/-- Requests go below the address exactly when a slash behind the address, without those at its end, does. If nothing
    but tabs and line ends is dropped at the end of the address, that is when it has neither a query nor a fragment nor
    an empty segment at the end of what is left of its path. -/
theorem Client.reaches_iff_rooted (s : Settings) (accepted : ∀ p ∈ s.problems.value, p.setting ≠ "vault.address") :
    let c := Client.ofConnection s.connection
    ∃ u, Url.parse s.connection.address = .ok u ∧ (∀ path, isPlainPath path = true → (c.Reaches u path ↔ c.Rooted u)) ∧
      (Url.Unpadded s.connection.address.toList → (c.Rooted u ↔ c.Clear s.connection.address)) := by
  intro c
  obtain ⟨u, read, web⟩ := web_of_accepted accepted
  obtain ⟨o, same⟩ := exists_opening_of_parse read web
  refine ⟨u, read, ?_, rooted_iff_clear o same read⟩
  intro path plain
  rw [c.reaches_iff o same plain, c.rooted_iff o same]

theorem Client.reaches_iff_rooted_base :
    let s : Settings :=
      { inputFile := "t", outputFile := "o", connection := { address := "https://127.0.0.1:8200/base//" } }
    ∃ u, Url.parse s.connection.address = .ok u ∧ (Client.ofConnection s.connection).Reaches u "secret/data/app" := by
  intro s
  have accepted : ∀ p ∈ s.problems.value, p.setting ≠ "vault.address" := by decide +kernel
  have unpadded : Url.Unpadded s.connection.address.toList := by
    intro c last
    have ends : (s.connection.address.toList.filter Url.isUnbroken).getLast? = some '/' := by decide
    cases ends.symm.trans last
    decide
  obtain ⟨u, read, everywhere, whole⟩ := Client.reaches_iff_rooted s accepted
  have written : (Url.parse "https://127.0.0.1:8200/base/").toOption.map (fun w => (w.path.text true).toList) =
      some "/base/".toList := by decide +kernel
  have clear : (Client.ofConnection s.connection).Clear s.connection.address := by
    refine ⟨by decide, by decide, ?_⟩
    intro w same
    have address : (Client.ofConnection s.connection).address ++ "/" = "https://127.0.0.1:8200/base/" := by decide
    rw [address] at same
    rw [same] at written
    have path : (w.path.text true).toList = "/base/".toList := Option.some.inj written
    rw [path]
    decide
  exact ⟨u, read, (everywhere _ (by decide)).mpr ((whole unpadded).mpr clear)⟩

/-- Behind a query a path is a part of the query. -/
theorem Client.unreached_behind_query :
    let s : Settings := { inputFile := "t", outputFile := "o", connection := { address := "http://127.0.0.1:1?x=y" } }
    (∀ p ∈ s.problems.value, p.setting ≠ "vault.address") ∧ isPlainPath "secret/a" = true ∧
      ∀ u, Url.parse s.connection.address = .ok u → ¬ (Client.ofConnection s.connection).Reaches u "secret/a" := by
  intro s
  have marked : (Url.parse ((Client.ofConnection s.connection).url "secret/a")).toOption.map (·.query) =
      some (some "x=y/v1/secret/a") := by decide +kernel
  refine ⟨by decide +kernel, by decide, ?_⟩
  intro u _ reaches
  obtain ⟨v, read, below⟩ := reaches.read
  rw [read] at marked
  cases below.query.symm.trans (Option.some.inj marked)

-- A fragment, a path that ends in a slash of another kind, and a blank at the end.
example :
    let read (address : String) := (Url.parse ((Client.ofConnection { address }).url "k")).toOption.map (·.text)
    ["http://127.0.0.1:1#x", "http://127.0.0.1:1/a\\", "http://127.0.0.1:1 "].map read =
      [some "http://127.0.0.1:1/#x/v1/k", some "http://127.0.0.1:1/a//v1/k", none] := by
  decide +kernel

end SecretTemplate.Vault
