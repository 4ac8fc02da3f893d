import SecretTemplate.Proofs.Engine.Completion
import SecretTemplate.Proofs.Engine.Queries
import SecretTemplate.Proofs.Vault.Bodies
import SecretTemplate.Vault.Login

namespace SecretTemplate

namespace Json

theorem Number.text_ne_empty (n : Number) : n.text ≠ "" := by
  cases n with
  | int n =>
    cases n with
    | ofNat n => exact Nat.repr_ne_empty
    | negSucc n => exact String.isEmpty_eq_false_iff.mp rfl
  | real negative x =>
    have magnitude : magnitudeText x ≠ "" := by
      unfold magnitudeText
      dsimp only
      split
      · decide
      split
      · simp
      split
      · simp
      split
      · simp
      · simp
    simp [Number.text, magnitude]

def printed : Json → String
  | .string s => s
  | other => other.text

theorem two_le_text {value : Json} (string : ∀ s, value ≠ .string s) (number : ∀ n, value ≠ .number n) :
    2 ≤ value.text.length := by
  cases value with
  | null => decide
  | bool b => cases b <;> decide
  | number n => exact absurd rfl (number n)
  | string s => exact absurd rfl (string s)
  | array items =>
    simp only [text, String.length_append]
    have brackets : "[".length + "]".length = 2 := rfl
    omega
  | object members =>
    simp only [text, String.length_append]
    have braces : "\x7b".length + "\x7d".length = 2 := rfl
    omega

end Json

namespace Vault

open Http (Outside Request Response)
open Engine (Shape Lookups clean classify cellOf)

inductive FlatVersion : Option Json → Prop
  | absent : FlatVersion none
  | null : FlatVersion (some .null)
  | blank : FlatVersion (some (.string ""))
  | one : FlatVersion (some (.string "1"))
  | number {n : Json.Number} (printed : n.text = "1") : FlatVersion (some (.number n))

inductive EnvelopedVersion : Option Json → Prop
  | two : EnvelopedVersion (some (.string "2"))
  | number {n : Json.Number} (printed : n.text = "2") : EnvelopedVersion (some (.number n))

theorem versionText?_of_ne_null {value : Json} (set : value ≠ .null) : versionText? value = some value.printed := by
  cases value with
  | null => cases set rfl
  | _ => rfl

theorem long_printed {value : Json} (string : ∀ s, value ≠ .string s) (number : ∀ n, value ≠ .number n) {text : String}
    (short : text.length < 2) : value.printed ≠ text := by
  rintro rfl
  have long := Json.two_le_text string number
  cases value with
  | string s => exact string s rfl
  | _ =>
    simp only [Json.printed] at short
    omega

theorem flatVersion_iff {version : Option Json} :
    FlatVersion version ↔ version.bind versionText? = none ∨ version.bind versionText? = some "" ∨
      version.bind versionText? = some "1" := by
  constructor
  · intro flat
    cases flat with
    | absent => exact .inl rfl
    | null => exact .inl rfl
    | blank => exact .inr (.inl rfl)
    | one => exact .inr (.inr rfl)
    | number printed => exact .inr (.inr (congrArg some printed))
  · intro named
    cases version with
    | none => exact .absent
    | some value =>
      simp only [Option.bind_some] at named
      cases value with
      | null => exact .null
      | string s =>
        simp only [versionText?, reduceCtorEq, Option.some.injEq, false_or] at named
        rcases named with rfl | rfl
        · exact .blank
        · exact .one
      | number n =>
        simp only [versionText?, Json.text, reduceCtorEq, Option.some.injEq, false_or] at named
        exact .number (named.resolve_left n.text_ne_empty)
      | _ =>
        rw [versionText?_of_ne_null Json.noConfusion, Option.some.injEq, Option.some.injEq] at named
        rcases named with absent | blank | one
        · cases absent
        · cases long_printed (fun s => Json.noConfusion) (fun n => Json.noConfusion) (by decide) blank
        · cases long_printed (fun s => Json.noConfusion) (fun n => Json.noConfusion) (by decide) one

theorem envelopedVersion_iff {version : Option Json} :
    EnvelopedVersion version ↔ version.bind versionText? = some "2" := by
  constructor
  · intro enveloped
    cases enveloped with
    | two => rfl
    | number printed => exact congrArg some printed
  · intro named
    cases version with
    | none => cases named
    | some value =>
      simp only [Option.bind_some] at named
      cases value with
      | null => cases named
      | string s =>
        cases named
        exact .two
      | number n => exact .number (Option.some.inj named)
      | _ =>
        rw [versionText?_of_ne_null Json.noConfusion, Option.some.injEq] at named
        cases long_printed (fun s => Json.noConfusion) (fun n => Json.noConfusion) (by decide) named

theorem ofVersion_of_flat {version : Option Json} (flat : FlatVersion version) (path : String) :
    Shape.ofVersion path (version.bind versionText?) = .ok .flat := by
  rcases flatVersion_iff.mp flat with named | named | named <;> rw [named] <;> rfl

theorem ofVersion_of_enveloped {version : Option Json} (enveloped : EnvelopedVersion version) (path : String) :
    Shape.ofVersion path (version.bind versionText?) = .ok .enveloped := by
  rw [envelopedVersion_iff.mp enveloped]
  rfl

theorem ofVersion_of_foreign {value : Json} (flat : ¬ FlatVersion (some value))
    (enveloped : ¬ EnvelopedVersion (some value)) (path : String) :
    Shape.ofVersion path (versionText? value) = .error (.unsupportedVersion path value.printed) := by
  have set : value ≠ .null := by
    rintro rfl
    exact flat .null
  rw [flatVersion_iff, Option.bind_some] at flat
  rw [envelopedVersion_iff, Option.bind_some] at enveloped
  rw [versionText?_of_ne_null set] at flat enveloped ⊢
  unfold Shape.ofVersion
  split
  · rename_i absent
    cases absent
  · rename_i blank
    exact absurd (.inr (.inl blank)) flat
  · rename_i one
    exact absurd (.inr (.inr one)) flat
  · rename_i two
    exact absurd two enveloped
  · rename_i text _ _ _ same
    cases same
    rfl

/-- The shape that the last answer to the question for it stands for. -/
inductive Verdict (path : String) : Except TransportError Response → Except Failure Shape → Prop
  | flat {r : Response} {version : Option Json} (success : r.isSuccess = true) (reports : Reports r.body version)
      (flat : FlatVersion version) : Verdict path (.ok r) (.ok .flat)
  | enveloped {r : Response} {version : Option Json} (success : r.isSuccess = true) (reports : Reports r.body version)
      (enveloped : EnvelopedVersion version) : Verdict path (.ok r) (.ok .enveloped)
  | foreign {r : Response} {value : Json} (success : r.isSuccess = true) (reports : Reports r.body (some value))
      (flat : ¬ FlatVersion (some value)) (enveloped : ¬ EnvelopedVersion (some value)) :
      Verdict path (.ok r) (.error (.unsupportedVersion path value.printed))
  | undecodable {r : Response} (success : r.isSuccess = true) (unreported : ∀ version, ¬ Reports r.body version) :
      Verdict path (.ok r) (.error (.unreachable path undecodable))
  | missing {r : Response} (missing : r.status = 404) : Verdict path (.ok r) (.ok .flat)
  | refused {r : Response} (unsuccessful : r.isSuccess = false) (present : r.status ≠ 404) :
      Verdict path (.ok r) (.error (.unreachable path (.status r.status (messages r.body))))
  | unanswered (e : TransportError) : Verdict path (.error e) (.error (.unreachable path (.transport e)))

theorem mountVersion_of_reports {r : Response} {version : Option Json} (success : r.isSuccess = true)
    (reports : Reports r.body version) : mountVersion r = .ok (version.bind versionText?) := by
  obtain ⟨options, read, rfl⟩ := reports_iff.mp reports
  simp only [mountVersion, success, if_true, read]
  rfl

theorem mountVersion_of_unreported {r : Response} (success : r.isSuccess = true)
    (unreported : ∀ version, ¬ Reports r.body version) : mountVersion r = .error undecodable := by
  cases read : mountOptions? r.body with
  | none => simp only [mountVersion, success, if_true, read]
  | some options => exact absurd (reports_iff.mpr ⟨options, read, rfl⟩) (unreported _)

theorem mountVersion_of_refused {r : Response} (unsuccessful : r.isSuccess = false) :
    mountVersion r = .error (refusal r) := by
  simp [mountVersion, unsuccessful]

variable {path : String} {answer : Except TransportError Response} {result : Except Failure Shape}

theorem Verdict.eq (verdict : Verdict path answer result) : result = classify path (reply mountVersion answer) := by
  cases verdict with
  | flat success reports flat =>
    simp only [reply, mountVersion_of_reports success reports, classify, ofVersion_of_flat flat]
  | enveloped success reports enveloped =>
    simp only [reply, mountVersion_of_reports success reports, classify, ofVersion_of_enveloped enveloped]
  | foreign success reports flat enveloped =>
    simp only [reply, mountVersion_of_reports success reports, classify, Option.bind_some,
      ofVersion_of_foreign flat enveloped]
  | undecodable success unreported =>
    simp only [reply, mountVersion_of_unreported success unreported]
    rfl
  | missing missing =>
    simp only [reply, mountVersion_of_refused (unsuccessful_of_missing missing), refusal, if_pos missing]
    rfl
  | refused unsuccessful present =>
    simp only [reply, mountVersion_of_refused unsuccessful, refusal, if_neg present]
    rfl
  | unanswered e => rfl

theorem exists_verdict (path : String) (answer : Except TransportError Response) :
    ∃ result, Verdict path answer result := by
  cases answer with
  | error e => exact ⟨_, .unanswered e⟩
  | ok r =>
    by_cases success : r.isSuccess = true
    · by_cases reported : ∃ version, Reports r.body version
      · obtain ⟨version, reports⟩ := reported
        by_cases flat : FlatVersion version
        · exact ⟨_, .flat success reports flat⟩
        by_cases enveloped : EnvelopedVersion version
        · exact ⟨_, .enveloped success reports enveloped⟩
        cases version with
        | none => cases flat .absent
        | some value => exact ⟨_, .foreign success reports flat enveloped⟩
      · exact ⟨_, .undecodable success (not_exists.mp reported)⟩
    · have unsuccessful := (Bool.not_eq_true _).mp success
      by_cases missing : r.status = 404
      · exact ⟨_, .missing missing⟩
      · exact ⟨_, .refused unsuccessful missing⟩

theorem verdict_iff : Verdict path answer result ↔ result = classify path (reply mountVersion answer) := by
  refine ⟨Verdict.eq, ?_⟩
  rintro rfl
  obtain ⟨result, verdict⟩ := exists_verdict path answer
  rwa [← verdict.eq]

theorem Verdict.unique {other : Except Failure Shape} (verdict : Verdict path answer result)
    (also : Verdict path answer other) : result = other := verdict.eq.trans also.eq.symm

/-- What the shape of a mount comes to, and from which last answers to the question for it. -/
structure Classifies (path : String) (answer : Except TransportError Response) (result : Except Failure Shape) :
    Prop where
  enveloped : result = .ok .enveloped ↔ ∃ r, answer = .ok r ∧ r.isSuccess = true ∧
    ∃ version, Reports r.body version ∧ EnvelopedVersion version
  flat : result = .ok .flat ↔ ∃ r, answer = .ok r ∧
    (r.status = 404 ∨ r.isSuccess = true ∧ ∃ version, Reports r.body version ∧ FlatVersion version)
  foreign : ∀ text, result = .error (.unsupportedVersion path text) ↔ ∃ r, answer = .ok r ∧ r.isSuccess = true ∧
    ∃ value, Reports r.body (some value) ∧ ¬ FlatVersion (some value) ∧ ¬ EnvelopedVersion (some value) ∧
      text = value.printed
  status : ∀ code errors, result = .error (.unreachable path (.status code errors)) ↔ ∃ r, answer = .ok r ∧
    r.status = code ∧ code ≠ 404 ∧ r.isSuccess = false ∧
      (Lists r.body errors ∨ errors = [] ∧ ∀ texts, ¬ Lists r.body texts)
  decode : ∀ text, result = .error (.unreachable path (.undecodable text)) ↔ text = "error decoding response body" ∧
    ∃ r, answer = .ok r ∧ r.isSuccess = true ∧ ∀ version, ¬ Reports r.body version
  transport : ∀ e, result = .error (.unreachable path (.transport e)) ↔ answer = .error e
  failures : ∀ cause, result = .error cause → (∃ text, cause = .unsupportedVersion path text) ∨
    ∃ source, cause = .unreachable path source ∧ source ≠ .notFound

theorem Verdict.classifies (verdict : Verdict path answer result) : Classifies path answer result where
  enveloped := by
    constructor
    · rintro rfl
      cases verdict with
      | enveloped success reports enveloped => exact ⟨_, rfl, success, _, reports, enveloped⟩
    · rintro ⟨r, rfl, success, version, reports, enveloped⟩
      exact verdict.unique (.enveloped success reports enveloped)
  flat := by
    constructor
    · rintro rfl
      cases verdict with
      | flat success reports flat => exact ⟨_, rfl, .inr ⟨success, _, reports, flat⟩⟩
      | missing missing => exact ⟨_, rfl, .inl missing⟩
    · rintro ⟨r, rfl, missing | ⟨success, version, reports, flat⟩⟩
      · exact verdict.unique (.missing missing)
      · exact verdict.unique (.flat success reports flat)
  foreign := by
    intro text
    constructor
    · rintro rfl
      cases verdict with
      | foreign success reports flat enveloped => exact ⟨_, rfl, success, _, reports, flat, enveloped, rfl⟩
    · rintro ⟨r, rfl, success, value, reports, flat, enveloped, rfl⟩
      exact verdict.unique (.foreign success reports flat enveloped)
  status := by
    intro code errors
    constructor
    · rintro rfl
      cases verdict with
      | refused unsuccessful present =>
        exact ⟨_, rfl, rfl, present, unsuccessful, messages_eq_iff.mp rfl⟩
    · rintro ⟨r, rfl, rfl, present, unsuccessful, listed⟩
      rw [← messages_eq_iff.mpr listed]
      exact verdict.unique (.refused unsuccessful present)
  decode := by
    intro text
    constructor
    · rintro rfl
      cases verdict with
      | undecodable success unreported => exact ⟨rfl, _, rfl, success, unreported⟩
    · rintro ⟨rfl, r, rfl, success, unreported⟩
      exact verdict.unique (.undecodable success unreported)
  transport := by
    intro e
    constructor
    · rintro rfl
      cases verdict with
      | unanswered => rfl
    · rintro rfl
      exact verdict.unique (.unanswered e)
  failures := by
    rintro cause rfl
    cases verdict with
    | foreign => exact .inl ⟨_, rfl⟩
    | undecodable => exact .inr ⟨_, rfl, StoreError.noConfusion⟩
    | refused => exact .inr ⟨_, rfl, StoreError.noConfusion⟩
    | unanswered => exact .inr ⟨_, rfl, StoreError.noConfusion⟩

namespace Client

variable {ω : Type}

/-- The last answer to the question for the version of a mount. -/
def mountAnswer (c : Client) (o : Outside ω) (path : String) (s : State ω) : Except TransportError Response :=
  (c.ask o .get ("sys/internal/ui/mounts/" ++ path.stripChar '/') none s).1

theorem classifies_mountVersion (c : Client) (o : Outside ω) (path : String) (s : State ω) :
    Classifies path (c.mountAnswer o path s) (classify path (c.mountVersion o path s).answer) := by
  apply Verdict.classifies
  rw [verdict_iff, mountVersion, query_answer]
  rfl

/-- Of calls for shapes that are made side by side each comes to what the last answer to a query of the same mount says,
    and by its own query if it makes one or fails. All of them come to their end. -/
theorem shapes_of_answers (c : Client) (o : Outside ω) (paths : List String) (s : Session (State ω))
    (schedule : List Nat) :
    let store := c.store o
    let first := Lookups.ofPaths paths s
    let told := Lookups.history store first schedule
    (∀ i path result, paths[i]? = some path → (first.run store schedule).result? i = some result →
      ∃ e ∈ told, paths[e.lookup]? = some e.path ∧ cellOf e.path = cellOf path ∧
        ((∃ cause, result = .error cause) ∨ (∃ e ∈ told, e.lookup = i ∧ e.isQuery = true) → e.lookup = i) ∧
        ∃ steps, steps <+: schedule ∧
          let state := (first.run store steps).session.state
          e.deed = .asked (c.mountVersion o (clean e.path) state).answer ∧
            Classifies (clean e.path) (c.mountAnswer o (clean e.path) state) result) ∧
    ∃ later, ∀ i < paths.length, ∃ result, (first.run store (schedule ++ later)).result? i = some result := by
  intro store first told
  have recorded := Lookups.recorded_history store paths s schedule
  constructor
  · intro i path result here known
    obtain ⟨e, member, answer, asked, place, mount, own, ⟨steps, passed, rfl⟩, rfl⟩ :=
      recorded.query_of_result here known
    exact ⟨e, member, place, mount, own, steps, passed, asked, c.classifies_mountVersion o _ _⟩
  · exact Lookups.exists_settled paths s store schedule

end Client

end Vault

end SecretTemplate
