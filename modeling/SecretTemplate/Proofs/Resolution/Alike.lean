import SecretTemplate.Proofs.Engine.Alike
import SecretTemplate.Proofs.Resolution.OneAtATime

namespace SecretTemplate

open Engine (Shape Lookup Lookups)
open Resolution (DocumentsAlike OutcomesAlike)

variable {σ τ α β : Type} {R : σ → τ → Prop}

structure Reply.Alike (R : σ → τ → Prop) (S : α → β → Prop) (x : Reply σ α) (y : Reply τ β) : Prop where
  answer : S x.answer y.answer
  events : x.events = y.events
  next : R x.next y.next

/-- From states that are related the stores answer alike. -/
structure Store.Alike (R : σ → τ → Prop) (store : Store σ) (store' : Store τ) : Prop where
  name : store.name = store'.name
  authenticate : ∀ {s t}, R s t → ∀ role, Reply.Alike R Eq (store.authenticate role s) (store'.authenticate role t)
  mountVersion : ∀ {s t}, R s t → ∀ path, Reply.Alike R Eq (store.mountVersion path s) (store'.mountVersion path t)
  read : ∀ {s t}, R s t → ∀ path, Reply.Alike R DocumentsAlike (store.read path s) (store'.read path t)

structure Session.Alike (R : σ → τ → Prop) (s : Session σ) (t : Session τ) : Prop where
  state : R s.state t.state
  trace : s.trace = t.trace

variable {s : Session σ} {t : Session τ} {store : Store σ} {store' : Store τ}

theorem Session.Alike.log (alike : s.Alike R t) (events : List Event) : (s.log events).Alike R (t.log events) where
  state := alike.state
  trace := congrArg (· ++ _) alike.trace

theorem Session.Alike.log_of_eq {events events' : List Event} (alike : s.Alike R t) (same : events = events') :
    (s.log events).Alike R (t.log events') := same ▸ alike.log events

theorem Session.Alike.ask {S : α → β → Prop} {question : σ → Reply σ α} {question' : τ → Reply τ β}
    (alike : s.Alike R t) (call : Call) (replies : Reply.Alike R S (question s.state) (question' t.state)) :
    S (s.ask call question).1 (t.ask call question').1 ∧ (s.ask call question).2.Alike R (t.ask call question').2 := by
  refine ⟨replies.answer, replies.next, ?_⟩
  unfold Session.ask
  dsimp only
  rw [alike.trace, replies.events]

namespace Engine.Lookups

structure Alike (R : σ → τ → Prop) (m : Lookups σ) (n : Lookups τ) : Prop where
  cells : m.cells = n.cells
  lookups : m.lookups = n.lookups
  session : m.session.Alike R n.session

variable {m : Lookups σ} {n : Lookups τ} {i : Nat}

theorem Alike.cell (alike : m.Alike R n) (mount : String) : m.cell mount = n.cell mount := by
  unfold Lookups.cell
  rw [alike.cells]

theorem Alike.result? (alike : m.Alike R n) (i : Nat) : m.result? i = n.result? i := by
  unfold Lookups.result?
  rw [alike.lookups]

theorem Alike.setStage (alike : m.Alike R n) (i : Nat) (stage : Lookup.Stage) :
    (m.setStage i stage).Alike R (n.setStage i stage) where
  cells := alike.cells
  lookups := by
    unfold Lookups.setStage
    rw [alike.lookups]
  session := alike.session

theorem Alike.change {s : Session σ} {t : Session τ} (alike : m.Alike R n) (i : Nat) (stage : Lookup.Stage)
    (mount : String) (cell : Cell) (sessions : s.Alike R t) :
    Alike R { (m.setStage i stage).setCell mount cell with session := s }
      { (n.setStage i stage).setCell mount cell with session := t } where
  cells := congrArg (·.insert mount cell) alike.cells
  lookups := (alike.setStage i stage).lookups
  session := sessions

theorem Alike.advance (alike : m.Alike R n) (stores : store.Alike R store') (i : Nat) :
    Option.Rel (Alike R) (m.advance store i) (n.advance store' i) := by
  unfold Lookups.advance
  rw [alike.lookups]
  cases n.lookups[i]? with
  | none => exact .none
  | some l =>
    dsimp only
    cases l.stage with
    | settled result => exact .none
    | waiting =>
      dsimp only
      rw [alike.cell]
      cases n.cell l.mount with
      | known shape => exact .some (alike.setStage i _)
      | asking => exact .none
      | vacant =>
        obtain ⟨answers, sessions⟩ := alike.session.ask (.mountVersion l.query)
          (stores.mountVersion alike.session.state l.query)
        have answer : (m.session.mountVersion store l.query).1 = (n.session.mountVersion store' l.query).1 := answers
        dsimp only
        rw [answer]
        exact .some (alike.change i _ l.mount .asking sessions)
    | asking answer => exact .some (alike.change i _ l.mount _ (alike.session.log _))

end Engine.Lookups

namespace Resolution

inductive Stage.Alike : Stage → Stage → Prop
  | queued : Stage.Alike .queued .queued
  | classifying : Stage.Alike .classifying .classifying
  | reading (shape : Shape) {answer answer' : Except StoreError (Option Json)}
      (answers : DocumentsAlike answer answer') : Stage.Alike (.reading shape answer) (.reading shape answer')
  | finished {outcome outcome' : Outcome} (outcomes : OutcomesAlike outcome outcome') :
      Stage.Alike (.finished outcome) (.finished outcome')

structure Fetch.Alike (f g : Fetch) : Prop where
  placeholder : f.placeholder = g.placeholder
  reference : f.reference = g.reference
  stage : f.stage.Alike g.stage

theorem Fetch.Alike.isQueued {f g : Fetch} (alike : f.Alike g) : f.isQueued = g.isQueued := by
  obtain ⟨-, -, stage⟩ := alike
  unfold Fetch.isQueued
  generalize f.stage = x, g.stage = y at stage
  cases stage <;> rfl

theorem Fetch.Alike.isFinished {f g : Fetch} (alike : f.Alike g) : f.isFinished = g.isFinished := by
  obtain ⟨-, -, stage⟩ := alike
  unfold Fetch.isFinished
  generalize f.stage = x, g.stage = y at stage
  cases stage <;> rfl

theorem Fetch.Alike.isRunning {f g : Fetch} (alike : f.Alike g) : f.isRunning = g.isRunning := by
  unfold Fetch.isRunning
  rw [alike.isQueued, alike.isFinished]

namespace Progress

structure Alike (R : σ → τ → Prop) (p : Progress σ) (q : Progress τ) : Prop where
  fetches : List.Forall₂ Fetch.Alike p.fetches q.fetches
  lookups : p.lookups.Alike R q.lookups
  limit : p.limit = q.limit
  outcomes : Entrywise OutcomesAlike p.outcomes q.outcomes

variable {p : Progress σ} {q : Progress τ} {i : Nat}

theorem Alike.ofBatch (batch : Batch) (limit : Nat) (sessions : s.Alike R t) :
    (ofBatch batch limit s).Alike R (ofBatch batch limit t) where
  fetches := List.forall₂_map_left_iff.mpr (List.forall₂_map_right_iff.mpr
    (List.forall₂_same.mpr fun _ _ => ⟨rfl, rfl, .queued⟩))
  lookups := ⟨rfl, rfl, sessions⟩
  limit := rfl
  outcomes := .nil

theorem Alike.mayStart (alike : p.Alike R q) (i : Nat) : p.mayStart i = q.mayStart i := by
  have queued : p.fetches.map (·.isQueued) = q.fetches.map (·.isQueued) :=
    map_eq_of_forall₂ alike.fetches fun _ _ fetches => fetches.isQueued
  have running : p.fetches.map (·.isRunning) = q.fetches.map (·.isRunning) :=
    map_eq_of_forall₂ alike.fetches fun _ _ fetches => fetches.isRunning
  have started (fetches : List Fetch) :
      (fetches.take i).all (!·.isQueued) = ((fetches.map (·.isQueued)).take i).all (!·) := by
    rw [← List.map_take, List.all_map]
    rfl
  have few (fetches : List Fetch) :
      (fetches.filter (·.isRunning)).length = ((fetches.map (·.isRunning)).filter id).length := by
    rw [List.filter_map, List.length_map]
    rfl
  unfold Progress.mayStart
  rw [started, started, few, few, queued, running, alike.limit]

theorem Alike.setStage {stage stage' : Stage} (alike : p.Alike R q) (i : Nat) (stages : stage.Alike stage')
    {s : Session σ} {t : Session τ} (sessions : s.Alike R t) :
    ((p.withSession s).setStage i stage).Alike R ((q.withSession t).setStage i stage') where
  fetches := forall₂_modify alike.fetches i fun _ _ fetches => ⟨fetches.placeholder, fetches.reference, stages⟩
  lookups := ⟨alike.lookups.cells, alike.lookups.lookups, sessions⟩
  limit := alike.limit
  outcomes := alike.outcomes

theorem Alike.finish {outcome outcome' : Outcome} (alike : p.Alike R q) (i : Nat) (placeholder : String)
    (outcomes : OutcomesAlike outcome outcome') {s : Session σ} {t : Session τ} (sessions : s.Alike R t) :
    ((p.withSession s).finish i placeholder outcome).Alike R ((q.withSession t).finish i placeholder outcome') :=
  { alike.setStage i (.finished outcomes) sessions with
    outcomes := List.rel_append alike.outcomes (.cons ⟨rfl, outcomes⟩ .nil) }

theorem Alike.advance (alike : p.Alike R q) (stores : store.Alike R store') (i : Nat) :
    Option.Rel (Alike R) (p.advance store i) (q.advance store' i) := by
  have fetches := rel_getElem? alike.fetches i
  have free := alike.mayStart i
  have result := alike.lookups.result? i
  unfold Progress.advance
  generalize p.fetches[i]? = x, q.fetches[i]? = y at fetches
  cases fetches with
  | none => exact .none
  | @some f g fetch =>
    obtain ⟨placeholder, reference, stage⟩ := fetch
    dsimp only
    rw [placeholder, reference]
    generalize f.stage = x, g.stage = y at stage
    cases stage with
    | queued =>
      dsimp only
      rw [free]
      split
      · exact .some (alike.setStage i .classifying alike.lookups.session)
      · exact .none
    | classifying =>
      dsimp only
      rw [result]
      cases q.lookups.result? i with
      | none =>
        have lookups := alike.lookups.advance stores i
        dsimp only
        generalize p.lookups.advance store i = x, q.lookups.advance store' i = y at lookups
        cases lookups with
        | none => exact .none
        | some lookups => exact .some ⟨alike.fetches, lookups, alike.limit, alike.outcomes⟩
      | some found =>
        cases found with
        | error cause => exact .some (alike.finish i g.placeholder (.error cause) alike.lookups.session)
        | ok shape =>
          obtain ⟨answers, sessions⟩ := (alike.lookups.session.log [readNotice shape g.reference]).ask
            (.read (shape.readPath g.reference.storePath)) (stores.read alike.lookups.session.state _)
          exact .some (alike.setStage i (.reading shape answers) sessions)
    | reading shape answers =>
      dsimp only
      rw [outcomeNotices_eq answers]
      exact .some (alike.finish i g.placeholder (agree_outcome answers shape g.reference) (alike.lookups.session.log _))
    | finished outcomes => exact .none

theorem Alike.run (alike : p.Alike R q) (stores : store.Alike R store') (schedule : List Nat) :
    (p.run store schedule).Alike R (q.run store' schedule) := by
  induction schedule generalizing p q with
  | nil => exact alike
  | cons i rest ih =>
    have moved := alike.advance stores i
    show ((p.step store i).run store rest).Alike R ((q.step store' i).run store' rest)
    apply ih
    unfold Progress.step
    generalize p.advance store i = x, q.advance store' i = y at moved
    cases moved with
    | none => exact alike
    | some further => exact further

theorem Alike.finished (alike : p.Alike R q) (finished : ∀ f ∈ p.fetches, f.isFinished = true) :
    ∀ g ∈ q.fetches, g.isFinished = true := by
  have same : p.fetches.map (·.isFinished) = q.fetches.map (·.isFinished) :=
    map_eq_of_forall₂ alike.fetches fun _ _ fetches => fetches.isFinished
  intro g member
  have listed := List.mem_map_of_mem member (f := (·.isFinished))
  rw [← same] at listed
  obtain ⟨f, member', ended⟩ := List.mem_map.mp listed
  rw [← ended]
  exact finished f member'

theorem alike_last (stores : store.Alike R store') {limit : Nat} (one : limit ≤ 1) (schedule schedule' : List Nat)
    (batch : Batch) (sessions : s.Alike R t) :
    (last store limit schedule batch s).Alike R (last store' limit schedule' batch t) := by
  obtain ⟨whole, -, ends⟩ := last_eq_run store limit schedule batch s
  obtain ⟨whole', -, ends'⟩ := last_eq_run store' limit schedule' batch t
  have begun : (first store limit batch s).Alike R (first store' limit batch t) := by
    unfold first
    rw [stores.name]
    exact Alike.ofBatch batch limit (sessions.log _)
  have side := begun.run stores whole
  have finished := last_finished store limit schedule batch s
  have finished' := last_finished store' limit schedule' batch t
  rw [ends] at finished
  rw [ends'] at finished'
  have single : (first store' limit batch t).limit = 1 := Nat.max_eq_left one
  have same := (Live.ofBatch batch limit _).run_unique single (side.finished finished) finished'
  rw [ends, ends']
  exact same ▸ side

end Progress

end Resolution

/-- References that differ in their values only. -/
structure Reference.Alike (a b : Reference) : Prop where
  storePath : a.storePath = b.storePath
  fieldKey : a.fieldKey = b.fieldKey
  fallback : a.fallback = b.fallback
  value : Text.Alike a.value b.value

namespace Resolution

structure Alike (a b : Resolution) : Prop where
  batch : Entrywise Reference.Alike a.batch.entries b.batch.entries
  failures : a.failures = b.failures
  resolved : a.resolved = b.resolved

variable {a b : Resolution} {outcome outcome' : Outcome} {outcomes outcomes' : List (String × Outcome)}

theorem Alike.record (alike : a.Alike b) (placeholder : String) (each : OutcomesAlike outcome outcome') :
    (a.record placeholder outcome).Alike (b.record placeholder outcome') := by
  cases each with
  | error cause => exact ⟨alike.batch, congrArg (·.insert placeholder cause) alike.failures, alike.resolved⟩
  | ok values =>
    cases values with
    | none => exact alike
    | some texts =>
      refine ⟨?_, alike.failures, congrArg (· + 1) alike.resolved⟩
      exact Keyed.modify_entrywise alike.batch placeholder fun _ _ references => { references with value := texts }

theorem Alike.recordAll (alike : a.Alike b) (each : Entrywise OutcomesAlike outcomes outcomes') :
    (outcomes.foldl (fun r (placeholder, outcome) => r.record placeholder outcome) a).Alike
      (outcomes'.foldl (fun r (placeholder, outcome) => r.record placeholder outcome) b) := by
  induction each generalizing a b with
  | nil => exact alike
  | @cons e e' _ _ head _ ih =>
    rw [List.foldl_cons, List.foldl_cons]
    apply ih
    dsimp only
    rw [head.1]
    exact alike.record e'.1 head.2

theorem alike_ofOutcomes (batch : Batch) (each : Entrywise OutcomesAlike outcomes outcomes') :
    (ofOutcomes batch outcomes).Alike (ofOutcomes batch outcomes') := by
  have start : Alike ⟨batch, ∅, 0⟩ ⟨batch, ∅, 0⟩ :=
    ⟨List.forall₂_same.mpr fun _ _ => ⟨rfl, rfl, rfl, rfl, .refl _⟩, rfl, rfl⟩
  exact start.recordAll each

theorem recordNotices_eq (each : Entrywise OutcomesAlike outcomes outcomes') :
    outcomes.flatMap (fun (placeholder, outcome) => recordNotices placeholder outcome) =
      outcomes'.flatMap fun (placeholder, outcome) => recordNotices placeholder outcome := by
  rw [List.flatMap_def, List.flatMap_def]
  apply congrArg List.flatten
  apply map_eq_of_forall₂ each
  rintro ⟨placeholder, outcome⟩ ⟨placeholder', outcome'⟩ ⟨same, outcomes⟩
  cases same
  cases outcomes <;> rfl

theorem Alike.failure? (alike : a.Alike b) : a.failure? = b.failure? := by
  unfold Resolution.failure?
  rw [alike.failures]

theorem Alike.endNotice (alike : a.Alike b) : a.endNotice = b.endNotice := by
  unfold Resolution.endNotice
  rw [alike.failures, alike.resolved]

theorem alike_resolveBatch (stores : store.Alike R store') {limit : Nat} (one : limit ≤ 1)
    (schedule schedule' : List Nat) (batch : Batch) (sessions : s.Alike R t) :
    (resolveBatch store limit schedule batch s).1.Alike (resolveBatch store' limit schedule' batch t).1 ∧
      (resolveBatch store limit schedule batch s).2.Alike R (resolveBatch store' limit schedule' batch t).2 := by
  have ends := Progress.alike_last stores one schedule schedule' batch sessions
  have results := alike_ofOutcomes batch ends.outcomes
  have logged := ends.lookups.session.log_of_eq (recordNotices_eq ends.outcomes)
  exact ⟨results, logged.log_of_eq (congrArg ([·]) results.endNotice)⟩

theorem agree_resolve (stores : store.Alike R store') {limit : Nat} (one : limit ≤ 1) (schedule schedule' : List Nat)
    (placeholders : List String) (sessions : s.Alike R t) :
    Agree Alike (resolve store limit schedule placeholders s).1 (resolve store' limit schedule' placeholders t).1 ∧
      (resolve store limit schedule placeholders s).2.Alike R (resolve store' limit schedule' placeholders t).2 := by
  have begun := sessions.log (Batch.read placeholders).events
  unfold resolve
  dsimp only
  cases (Batch.read placeholders).value with
  | error cause => exact ⟨.error cause, begun⟩
  | ok batch =>
    obtain ⟨results, ends⟩ := alike_resolveBatch stores one schedule schedule' batch begun
    exact ⟨.ok results, ends⟩

end Resolution

end SecretTemplate
