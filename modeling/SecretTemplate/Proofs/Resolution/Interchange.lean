import SecretTemplate.Proofs.Engine.Documents
import SecretTemplate.Proofs.Engine.FixedAnswers
import SecretTemplate.Proofs.Resolution.Accounting

namespace SecretTemplate

open Engine (Shape clean classify cellOf)

variable {σ τ : Type}

/-- All answers that a store can give. -/
def Store.answers (store : Store σ) : Answers where
  version path answer := ∃ state, (store.mountVersion path state).answer = answer
  document path answer := ∃ state, (store.read path state).answer = answer

theorem Store.gives_answers (store : Store σ) (state : σ) : store.Gives store.answers state where
  mountVersion _ := ⟨state, rfl⟩
  read _ := ⟨state, rfl⟩

/-- The mount of a path has the shape, whatever path below it is asked for, and where a document of this shape is read
    there is the given one. -/
structure Store.Serves (store : Store σ) (shape : Shape) (path : String) (document : Json) : Prop where
  classified : ∀ state, classify (clean path) (store.mountVersion (clean path) state).answer = .ok shape
  uniform : ∀ other state known, cellOf other = cellOf path →
    classify (clean other) (store.mountVersion (clean other) state).answer = .ok known → known = shape
  read : ∀ state, (store.read (shape.readPath path) state).answer = .ok (some document)

namespace Resolution

variable {store : Store σ} {shape : Shape} {r : Reference} {document : Json} {batch : Batch}
  {placeholders : List String} {p : String}

theorem eq_of_canEnd (serves : store.Serves shape r.storePath document) {references : List Reference}
    {ended : Outcome} (can : CanEnd store.answers references r ended) :
    ended = outcome shape r (.ok (some document)) := by
  obtain ⟨text, yields, rfl⟩ := can
  cases yields with
  | refused refuses =>
    obtain ⟨_, ⟨state, rfl⟩, failed⟩ := refuses
    cases (serves.classified state).symm.trans failed
  | read names answered =>
    obtain ⟨other, -, mount, _, ⟨state, rfl⟩, known⟩ := names
    cases serves.uniform other state _ mount known
    obtain ⟨state, rfl⟩ := answered
    rw [serves.read state]
    rfl

theorem resolve_account (store : Store σ) (limit : Nat) (schedule : List Nat) (s : Session σ)
    (read : Batch.ofPlaceholders placeholders = .ok batch) :
    ∃ resolution, (resolve store limit schedule placeholders s).1 = .ok resolution ∧
      ∀ p r, batch.get? p = some r →
        ∃ ended, CanEnd store.answers batch.values r ended ∧ Account resolution p r ended := by
  have begun := resolve_eq store limit schedule batch s read
  obtain ⟨ends, same, each⟩ := resolveBatch_settled store limit schedule batch (s.log (Batch.read placeholders).events)
    (Progress.Told.ofBatch store.answers batch limit) (fun told step => told.step (store.gives_answers _) step)
    (fun p told f member ended finished => by
      obtain ⟨i, here⟩ := List.mem_iff_getElem?.mp member
      exact told.finished here finished)
  refine ⟨settled batch ends, begun.trans (congrArg _ same), ?_⟩
  intro p r known
  obtain ⟨ended, found, can⟩ := each.lookup known
  have nonempty (text : String) (fetched : ended = .ok (some text)) : text ≠ "" := by
    obtain ⟨_, -, rfl⟩ := can
    exact nonempty_of_kept fetched
  exact ⟨ended, can, account_settled known found nonempty⟩

theorem resolve_served (serves : store.Serves shape r.storePath document) (parsed : Reference.parse p = .ok r)
    (listed : p ∈ placeholders) (readable : ∀ q ∈ placeholders, ∃ r, Reference.parse q = .ok r) (limit : Nat)
    (schedule : List Nat) (s : Session σ) :
    ∃ resolution, (resolve store limit schedule placeholders s).1 = .ok resolution ∧
      Account resolution p r (outcome shape r (.ok (some document))) := by
  obtain ⟨batch, read⟩ := Batch.ofPlaceholders_of_readable readable
  obtain ⟨resolution, resolved, each⟩ := resolve_account store limit schedule s read
  have known := (Batch.get?_ofPlaceholders read p r).mpr ⟨listed, parsed⟩
  obtain ⟨ended, can, account⟩ := each p r known
  rw [eq_of_canEnd serves can] at account
  exact ⟨resolution, resolved, account⟩

/-- A member named like the envelope is a field like any other in a flat store, and beside the envelope nothing of an
    enveloped document is seen. -/
theorem shapes_interchangeable {flat : Store σ} {enveloped : Store τ} {fields members : List (String × Json)}
    (inside : lookup "data" members = some (.object fields)) (parsed : Reference.parse p = .ok r)
    (top : flat.Serves .flat r.storePath (.object fields))
    (below : enveloped.Serves .enveloped r.storePath (.object members)) {placeholders placeholders' : List String}
    (listed : p ∈ placeholders) (listed' : p ∈ placeholders')
    (readable : ∀ q ∈ placeholders, ∃ r, Reference.parse q = .ok r)
    (readable' : ∀ q ∈ placeholders', ∃ r, Reference.parse q = .ok r) (limit limit' : Nat)
    (schedule schedule' : List Nat) (s : Session σ) (s' : Session τ) :
    ∃ resolution resolution' ended,
      (resolve flat limit schedule placeholders s).1 = .ok resolution ∧
      (resolve enveloped limit' schedule' placeholders' s').1 = .ok resolution' ∧
      Reading r (lookup r.fieldKey fields) ended ∧ Account resolution p r ended ∧ Account resolution' p r ended := by
  obtain ⟨resolution, resolved, account⟩ := resolve_served top parsed listed readable limit schedule s
  obtain ⟨resolution', resolved', account'⟩ := resolve_served below parsed listed' readable' limit' schedule' s'
  have same : outcome .flat r (.ok (some (.object fields))) = outcome .enveloped r (.ok (some (.object members))) := by
    rw [outcome_of_holds (.flat fields), outcome_of_holds (.enveloped inside)]
    rfl
  rw [← same] at account'
  exact ⟨resolution, resolution', _, resolved, resolved', reading_of_holds (.flat fields) r, account, account'⟩

def answering (version : String) (document : Json) : Store Unit :=
  .ofAnswers (fun _ => .ok (some version)) fun _ => .ok (some document)

theorem answering_serves {version : String} {shape : Shape}
    (named : ∀ path, Shape.ofVersion path (some version) = .ok shape)
    (path : String) (document : Json) : (answering version document).Serves shape path document where
  classified _ := named _
  uniform _ _ _ _ known := Except.ok.inj (known.symm.trans (named _))
  read _ := rfl

def reserved : List (String × Json) := [("data", .object [("k", .string "inner")]), ("k", .string "v")]

def wrapped : List (String × Json) := [("data", .object reserved), ("k", .string "beside")]

theorem shapes_interchangeable_reserved :
    ∃ resolution resolution' ended,
      (resolve (answering "1" (.object reserved)) 1 [] ["kv/a!data", "kv/a!k"] ⟨(), []⟩).1 = .ok resolution ∧
      (resolve (answering "2" (.object wrapped)) 2 [1, 1, 0] ["kv/a!k"] ⟨(), []⟩).1 = .ok resolution' ∧
      Reading ⟨"kv/a", "k", "", ""⟩ (lookup "k" reserved) ended ∧
      Account resolution "kv/a!k" ⟨"kv/a", "k", "", ""⟩ ended ∧
      Account resolution' "kv/a!k" ⟨"kv/a", "k", "", ""⟩ ended := by
  have data : Reference.parse "kv/a!data" = .ok ⟨"kv/a", "data", "", ""⟩ := rfl
  have parsed : Reference.parse "kv/a!k" = .ok ⟨"kv/a", "k", "", ""⟩ := rfl
  have inside : lookup "data" wrapped = some (.object reserved) := rfl
  apply shapes_interchangeable inside parsed (answering_serves (fun _ => rfl) _ _)
    (answering_serves (fun _ => rfl) _ _) (by simp) (by simp)
  · intro q member
    simp only [List.mem_cons, List.not_mem_nil, or_false] at member
    rcases member with rfl | rfl
    · exact ⟨_, data⟩
    · exact ⟨_, parsed⟩
  · intro q member
    cases List.mem_singleton.mp member
    exact ⟨_, parsed⟩

example :
    let told (store : Store Unit) := (resolve store 1 [] ["kv/a!data", "kv/a!k"] ⟨(), []⟩).1.toOption.map fun r =>
      (r.batch.entries.map fun e => (e.1, e.2.value), r.failures.entries)
    told (answering "1" (.object reserved)) = told (answering "2" (.object wrapped)) ∧
      told (answering "1" (.object reserved)) =
        some ([("kv/a!data", ""), ("kv/a!k", "v")], [("kv/a!data", .unsupportedField "kv/a" "data")]) := by
  decide +kernel

end Resolution

end SecretTemplate
