import SecretTemplate.Http.Replay
import SecretTemplate.Proofs.Engine.Documents
import SecretTemplate.Proofs.Resolution.Documents
import SecretTemplate.Proofs.Vault.Bodies
import SecretTemplate.Vault.Login

namespace SecretTemplate.Vault

open Http (Outside Response)
open Engine (Shape)
open Resolution (Outcome Reading Happening Replies Classified Account Progress outcome)

variable {shape : Shape} {r : Reference} {answer : Except TransportError Response} {ended : Outcome}

/-- The answer holds a document with these fields. -/
def Delivers (shape : Shape) (answer : Except TransportError Response) (fields : List (String × Json)) : Prop :=
  ∃ response data, answer = .ok response ∧ response.isSuccess = true ∧ Carries response.body (some data) ∧
    shape.Holds data fields

/-- How a fetch ends by the last answer to its read. -/
inductive Ending (shape : Shape) (r : Reference) : Except TransportError Response → Outcome → Prop
  | delivered {answer : Except TransportError Response} {fields : List (String × Json)} {member : Option Json}
      {ended : Outcome} (delivers : Delivers shape answer fields) (found : lookup r.fieldKey fields = member)
      (reading : Reading r member ended) : Ending shape r answer ended
  | empty {response : Response} {data : Option Json} (success : response.isSuccess = true)
      (carries : Carries response.body data) (shapeless : ∀ members, data ≠ some (.object members)) :
      Ending shape r (.ok response) (.error (.emptyDocument r.storePath))
  | malformed {response : Response} {members : List (String × Json)} (enveloped : shape = .enveloped)
      (success : response.isSuccess = true) (carries : Carries response.body (some (.object members)))
      (unsealed : ∀ fields, lookup "data" members ≠ some (.object fields)) :
      Ending shape r (.ok response) (.error (.malformedEnvelope r.storePath))
  | undecodable {response : Response} (success : response.isSuccess = true)
      (uncarried : ∀ data, ¬ Carries response.body data) :
      Ending shape r (.ok response) (.error (.unreachable r.storePath undecodable))
  | missing {response : Response} (missing : response.status = 404) :
      Ending shape r (.ok response) (.error (.secretNotFound r.storePath))
  | refused {response : Response} (unsuccessful : response.isSuccess = false) (present : response.status ≠ 404) :
      Ending shape r (.ok response)
        (.error (.unreachable r.storePath (.status response.status (messages response.body))))
  | unanswered (e : TransportError) : Ending shape r (.error e) (.error (.unreachable r.storePath (.transport e)))

theorem document_of_carries {response : Response} {data : Option Json} (success : response.isSuccess = true)
    (carries : Carries response.body data) : document response = .ok (some (data.getD .null)) := by
  have present : response.status ≠ 404 := by
    intro missing
    cases (unsuccessful_of_missing missing).symm.trans success
  simp only [document, if_neg present, success, if_true, data?_eq_some_iff.mpr carries]

theorem document_of_uncarried {response : Response} (success : response.isSuccess = true)
    (uncarried : ∀ data, ¬ Carries response.body data) : document response = .error undecodable := by
  have present : response.status ≠ 404 := by
    intro missing
    cases (unsuccessful_of_missing missing).symm.trans success
  cases read : data? response.body with
  | none => simp only [document, if_neg present, success, if_true, read]
  | some data => exact absurd (data?_eq_some_iff.mp read) (uncarried data)

theorem document_of_refused {response : Response} (unsuccessful : response.isSuccess = false)
    (present : response.status ≠ 404) :
    document response = .error (.status response.status (messages response.body)) := by
  simp [document, refusal, present, unsuccessful]

theorem Ending.eq (ending : Ending shape r answer ended) : ended = outcome shape r (reply document answer) := by
  cases ending with
  | delivered delivers found reading =>
    obtain ⟨response, data, rfl, success, carries, holds⟩ := delivers
    rw [reply, document_of_carries success carries]
    exact reading.eq found holds
  | @empty response data success carries shapeless =>
    rw [reply, document_of_carries success carries]
    cases data with
    | none => cases shape <;> rfl
    | some value =>
      cases value with
      | object members => exact absurd rfl (shapeless members)
      | _ => cases shape <;> rfl
  | @malformed response members enveloped success carries unsealed =>
    subst enveloped
    rw [reply, document_of_carries success carries]
    have sealed : (lookup Reference.envelopeField members).bind Engine.fields? = none := by
      cases found : lookup Reference.envelopeField members with
      | none => rfl
      | some value =>
        cases value with
        | object fields => exact absurd found (unsealed fields)
        | _ => rfl
    simp only [outcome, Resolution.fieldText, Option.getD_some, Engine.ofData_enveloped, Engine.fields?, sealed]
    rfl
  | undecodable success uncarried =>
    rw [reply, document_of_uncarried success uncarried]
    rfl
  | missing missing =>
    simp only [reply, document, if_pos missing]
    rfl
  | refused unsuccessful present =>
    rw [reply, document_of_refused unsuccessful present]
    rfl
  | unanswered e => rfl

theorem exists_ending (shape : Shape) (r : Reference) (answer : Except TransportError Response) :
    ∃ ended, Ending shape r answer ended := by
  cases answer with
  | error e => exact ⟨_, .unanswered e⟩
  | ok response =>
    by_cases success : response.isSuccess = true
    · by_cases carried : ∃ data, Carries response.body data
      · obtain ⟨data, carries⟩ := carried
        by_cases shaped : ∃ members, data = some (.object members)
        · obtain ⟨members, rfl⟩ := shaped
          cases shape with
          | flat =>
            obtain ⟨_, reading⟩ := Resolution.exists_reading r (lookup r.fieldKey members)
            exact ⟨_, .delivered ⟨response, _, rfl, success, carries, .flat members⟩ rfl reading⟩
          | enveloped =>
            by_cases inside : ∃ fields, lookup "data" members = some (.object fields)
            · obtain ⟨fields, inside⟩ := inside
              obtain ⟨_, reading⟩ := Resolution.exists_reading r (lookup r.fieldKey fields)
              exact ⟨_, .delivered ⟨response, _, rfl, success, carries, .enveloped inside⟩ rfl reading⟩
            · exact ⟨_, .malformed rfl success carries (not_exists.mp inside)⟩
        · exact ⟨_, .empty success carries (not_exists.mp shaped)⟩
      · exact ⟨_, .undecodable success (not_exists.mp carried)⟩
    · have unsuccessful := (Bool.not_eq_true _).mp success
      by_cases missing : response.status = 404
      · exact ⟨_, .missing missing⟩
      · exact ⟨_, .refused unsuccessful missing⟩

theorem ending_outcome (shape : Shape) (r : Reference) (answer : Except TransportError Response) :
    Ending shape r answer (outcome shape r (reply document answer)) := by
  obtain ⟨ended, ending⟩ := exists_ending shape r answer
  rwa [← ending.eq]

theorem Ending.unique {other : Outcome} (ending : Ending shape r answer ended) (also : Ending shape r answer other) :
    ended = other := ending.eq.trans also.eq.symm

/-- How a fetch ends, and by which last answers to its read. -/
structure Settles (shape : Shape) (r : Reference) (answer : Except TransportError Response) (ended : Outcome) :
    Prop where
  value : ∀ text, ended = .ok (some text) ↔ text ≠ "" ∧ ∃ fields value, Delivers shape answer fields ∧
    lookup r.fieldKey fields = some value ∧ value.scalar? = some text
  blank : ended = .ok none ↔ ∃ fields value, Delivers shape answer fields ∧
    lookup r.fieldKey fields = some value ∧ value.scalar? = some ""
  missing : ended = .error (.secretNotFound r.storePath) ↔ ∃ response, answer = .ok response ∧ response.status = 404
  status : ∀ code errors, ended = .error (.unreachable r.storePath (.status code errors)) ↔
    ∃ response, answer = .ok response ∧ response.status = code ∧ code ≠ 404 ∧ response.isSuccess = false ∧
      (Lists response.body errors ∨ errors = [] ∧ ∀ texts, ¬ Lists response.body texts)
  decode : ∀ text, ended = .error (.unreachable r.storePath (.undecodable text)) ↔
    text = "error decoding response body" ∧
      ∃ response, answer = .ok response ∧ response.isSuccess = true ∧ ∀ data, ¬ Carries response.body data
  transport : ∀ e, ended = .error (.unreachable r.storePath (.transport e)) ↔ answer = .error e
  empty : ended = .error (.emptyDocument r.storePath) ↔ ∃ response data, answer = .ok response ∧
    response.isSuccess = true ∧ Carries response.body data ∧ ∀ members, data ≠ some (.object members)
  malformed : ended = .error (.malformedEnvelope r.storePath) ↔ shape = .enveloped ∧ ∃ response members,
    answer = .ok response ∧ response.isSuccess = true ∧ Carries response.body (some (.object members)) ∧
      ∀ fields, lookup "data" members ≠ some (.object fields)
  absent : ended = .error (.fieldNotFound r.storePath r.fieldKey) ↔ ∃ fields, Delivers shape answer fields ∧
    (lookup r.fieldKey fields = none ∨ lookup r.fieldKey fields = some .null)
  unsupported : ended = .error (.unsupportedField r.storePath r.fieldKey) ↔ ∃ fields, Delivers shape answer fields ∧
    ((∃ items, lookup r.fieldKey fields = some (.array items)) ∨
      ∃ members, lookup r.fieldKey fields = some (.object members))
  failures : ∀ cause, ended = .error cause →
    cause ∈ [.secretNotFound r.storePath, .emptyDocument r.storePath, .malformedEnvelope r.storePath,
      .fieldNotFound r.storePath r.fieldKey, .unsupportedField r.storePath r.fieldKey] ∨
    ∃ source, cause = .unreachable r.storePath source ∧ source ≠ .notFound

theorem Ending.settles (ending : Ending shape r answer ended) : Settles shape r answer ended where
  value := by
    intro text
    constructor
    · rintro rfl
      cases ending with
      | delivered delivers found reading =>
        cases reading with
        | text scalar nonempty => exact ⟨nonempty, _, _, delivers, found, scalar⟩
    · rintro ⟨nonempty, fields, value, delivers, found, scalar⟩
      exact ending.unique (.delivered delivers found (.text scalar nonempty))
  blank := by
    constructor
    · rintro rfl
      cases ending with
      | delivered delivers found reading =>
        cases reading with
        | blank scalar => exact ⟨_, _, delivers, found, scalar⟩
    · rintro ⟨fields, value, delivers, found, scalar⟩
      exact ending.unique (.delivered delivers found (.blank scalar))
  missing := by
    constructor
    · rintro rfl
      cases ending with
      | delivered delivers found reading => cases reading
      | missing missing => exact ⟨_, rfl, missing⟩
    · rintro ⟨response, rfl, missing⟩
      exact ending.unique (.missing missing)
  status := by
    intro code errors
    constructor
    · rintro rfl
      cases ending with
      | delivered delivers found reading => cases reading
      | refused unsuccessful present => exact ⟨_, rfl, rfl, present, unsuccessful, messages_eq_iff.mp rfl⟩
    · rintro ⟨response, rfl, rfl, present, unsuccessful, listed⟩
      rw [← messages_eq_iff.mpr listed]
      exact ending.unique (.refused unsuccessful present)
  decode := by
    intro text
    constructor
    · rintro rfl
      cases ending with
      | delivered delivers found reading => cases reading
      | undecodable success uncarried => exact ⟨rfl, _, rfl, success, uncarried⟩
    · rintro ⟨rfl, response, rfl, success, uncarried⟩
      exact ending.unique (.undecodable success uncarried)
  transport := by
    intro e
    constructor
    · rintro rfl
      cases ending with
      | delivered delivers found reading => cases reading
      | unanswered => rfl
    · rintro rfl
      exact ending.unique (.unanswered e)
  empty := by
    constructor
    · rintro rfl
      cases ending with
      | delivered delivers found reading => cases reading
      | empty success carries shapeless => exact ⟨_, _, rfl, success, carries, shapeless⟩
    · rintro ⟨response, data, rfl, success, carries, shapeless⟩
      exact ending.unique (.empty success carries shapeless)
  malformed := by
    constructor
    · rintro rfl
      cases ending with
      | delivered delivers found reading => cases reading
      | malformed enveloped success carries unsealed => exact ⟨enveloped, _, _, rfl, success, carries, unsealed⟩
    · rintro ⟨enveloped, response, members, rfl, success, carries, unsealed⟩
      exact ending.unique (.malformed enveloped success carries unsealed)
  absent := by
    constructor
    · rintro rfl
      cases ending with
      | delivered delivers found reading =>
        cases reading with
        | absent => exact ⟨_, delivers, .inl found⟩
        | null => exact ⟨_, delivers, .inr found⟩
    · rintro ⟨fields, delivers, found | found⟩
      · exact ending.unique (.delivered delivers found .absent)
      · exact ending.unique (.delivered delivers found .null)
  unsupported := by
    constructor
    · rintro rfl
      cases ending with
      | delivered delivers found reading =>
        cases reading with
        | array items => exact ⟨_, delivers, .inl ⟨items, found⟩⟩
        | object members => exact ⟨_, delivers, .inr ⟨members, found⟩⟩
    · rintro ⟨fields, delivers, ⟨items, found⟩ | ⟨members, found⟩⟩
      · exact ending.unique (.delivered delivers found (.array items))
      · exact ending.unique (.delivered delivers found (.object members))
  failures := by
    rintro cause rfl
    cases ending with
    | delivered delivers found reading => cases reading <;> simp
    | empty => simp
    | malformed => simp
    | missing => simp
    | undecodable => exact .inr ⟨_, rfl, StoreError.noConfusion⟩
    | refused => exact .inr ⟨_, rfl, StoreError.noConfusion⟩
    | unanswered => exact .inr ⟨_, rfl, StoreError.noConfusion⟩

namespace Client

variable {ω : Type}

/-- The last answer to a read. -/
def readAnswer (c : Client) (o : Outside ω) (path : String) (s : State ω) : Except TransportError Response :=
  (c.ask o .get path none s).1

theorem settles_read (c : Client) (o : Outside ω) (shape : Shape) (r : Reference) (s : State ω) :
    Settles shape r (c.readAnswer o (shape.readPath r.storePath) s)
      (outcome shape r (c.read o (shape.readPath r.storePath) s).answer) := by
  rw [read, query_answer]
  exact (ending_outcome shape r _).settles

/-- A reference whose mount was classified is read when all that was asked before has been answered, and what a
    resolution says of it is what the last answer to this read stands for. -/
theorem values_of_answers (c : Client) (o : Outside ω) (limit : Nat) (schedule : List Nat) {placeholders : List String}
    {batch : Batch} (read : Batch.ofPlaceholders placeholders = .ok batch) (s : Session (State ω)) :
    ∃ whole resolution, schedule <+: whole ∧
      let store := c.store o
      let told := (Progress.first store limit batch (s.log (Batch.read placeholders).events)).history store whole
      (resolve store limit schedule placeholders s).1 = .ok resolution ∧
      ∀ p r shape, batch.get? p = some r → Classified told p shape → r.value = r.fallback ∧
        ∃ before e after state ended, told = before ++ e :: after ∧ e.placeholder = p ∧
          Replies store s.state before state ∧
          e.deed = .read shape (c.read o (shape.readPath r.storePath) state).answer ∧
          Settles shape r (c.readAnswer o (shape.readPath r.storePath) state) ended ∧ Account resolution p r ended := by
  obtain ⟨whole, longer, -, resolved, orderly⟩ := Resolution.resolve_orderly (c.store o) limit schedule read s
  refine ⟨whole, _, longer, resolved, ?_⟩
  intro p r shape known classified
  obtain ⟨before, e, after, state, cut, placeholder, replies, deed, account⟩ :=
    orderly.account_of_read known classified
  have parsed := ((Batch.get?_ofPlaceholders read p r).mp known).2
  exact ⟨Batch.value_parse parsed, before, e, after, state, _, cut, placeholder, replies, deed,
    c.settles_read o shape r state, account⟩

def neighbour : Client := ⟨"http://127.0.0.1:8200", none, "kubernetes", "jwt"⟩

def unused (answers : List (Option Response)) : Session (State Http.Replay) :=
  ⟨{ token := none, outside := { files := {}, answers } }, []⟩

/-- A mount without metadata, a document with an empty field, and a refusal whose body is no record. -/
def answered : List (Option Response) :=
  [some { status := 404 },
    some { status := 200, body := Text.Utf8.encode "\x7b\"data\":\x7b\"k\":\"\",\"n\":3\x7d\x7d" },
    some { status := 200, body := Text.Utf8.encode "\x7b\"data\":\x7b\"k\":\"\",\"n\":3\x7d\x7d" },
    some { status := 503, body := Text.Utf8.encode "sealed" }]

theorem values_of_answers_neighbour :
    let placeholders := ["kv/a!k:x", "kv/a!n", "kv/b!k:y"]
    ∃ batch, Batch.ofPlaceholders placeholders = .ok batch ∧ ∃ whole resolution, [1, 1] <+: whole ∧
      let s := unused answered
      let store := neighbour.store Http.Replay.outside
      let told := (Progress.first store 1 batch (s.log (Batch.read placeholders).events)).history store whole
      (resolve store 1 [1, 1] placeholders s).1 = .ok resolution ∧
      ∀ p r shape, batch.get? p = some r → Classified told p shape → r.value = r.fallback ∧
        ∃ before e after state ended, told = before ++ e :: after ∧ e.placeholder = p ∧
          Replies store s.state before state ∧
          e.deed = .read shape (neighbour.read Http.Replay.outside (shape.readPath r.storePath) state).answer ∧
          Settles shape r (neighbour.readAnswer Http.Replay.outside (shape.readPath r.storePath) state) ended ∧
          Account resolution p r ended := by
  intro placeholders
  have readable : ∀ p ∈ placeholders, ∃ r, Reference.parse p = .ok r := by
    intro p member
    simp only [placeholders, List.mem_cons, List.not_mem_nil, or_false] at member
    rcases member with rfl | rfl | rfl
    · exact ⟨_, rfl⟩
    · exact ⟨_, rfl⟩
    · exact ⟨_, rfl⟩
  obtain ⟨batch, read⟩ := Batch.ofPlaceholders_of_readable readable
  exact ⟨batch, read, values_of_answers neighbour Http.Replay.outside 1 [1, 1] read (unused answered)⟩

example :
    (resolve (neighbour.store Http.Replay.outside) 1 [] ["kv/a!k:x", "kv/a!n", "kv/b!k:y"]
        (unused answered)).1.toOption.map (fun r =>
      (r.batch.entries.map fun e => (e.1, e.2.value), r.failures.entries, r.resolved)) =
      some ([("kv/a!k:x", "x"), ("kv/a!n", "3"), ("kv/b!k:y", "y")],
        [("kv/b!k:y", .unreachable "kv/b" (.status 503 []))], 1) := by
  decide +kernel

end Client

end SecretTemplate.Vault
