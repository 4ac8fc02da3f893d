import SecretTemplate.Resolution

namespace SecretTemplate

open Engine (Shape Lookup Lookups)

variable {σ : Type} {α : Type}

namespace Session

theorem calls_ask (s : Session σ) (call : Call) (question : σ → Reply σ α) :
    (s.ask call question).2.calls = s.calls ++ [call] := by
  simp [ask, calls]

theorem calls_log (s : Session σ) (events : List Event) : (s.log events).calls = s.calls := by
  simp [log, calls]

def after (past : List Occurrence) (s : Session σ) : Session σ := { s with trace := past ++ s.trace }

theorem after_nil (s : Session σ) : (⟨s.state, []⟩ : Session σ).after s.trace = s := by
  simp only [after, List.append_nil]

theorem log_after (past : List Occurrence) (s : Session σ) (events : List Event) :
    (s.after past).log events = (s.log events).after past := by
  simp only [after, log, List.append_assoc]

theorem ask_after (past : List Occurrence) (s : Session σ) (call : Call) (question : σ → Reply σ α) :
    (s.after past).ask call question = ((s.ask call question).1, (s.ask call question).2.after past) := by
  simp only [after, ask, List.append_assoc]

theorem mountVersion_after (past : List Occurrence) (s : Session σ) (store : Store σ) (path : String) :
    (s.after past).mountVersion store path =
      ((s.mountVersion store path).1, (s.mountVersion store path).2.after past) := ask_after past s _ _

theorem read_after (past : List Occurrence) (s : Session σ) (store : Store σ) (path : String) :
    (s.after past).read store path = ((s.read store path).1, (s.read store path).2.after past) := ask_after past s _ _

theorem calls_after (past : List Occurrence) (s : Session σ) :
    (s.after past).calls = (⟨s.state, past⟩ : Session σ).calls ++ s.calls := List.filterMap_append

end Session

namespace Engine.Lookups

def after (past : List Occurrence) (m : Lookups σ) : Lookups σ := { m with session := m.session.after past }

theorem advance_after (store : Store σ) (past : List Occurrence) (m : Lookups σ) (i : Nat) :
    (m.after past).advance store i = (m.advance store i).map (after past) := by
  have lookups : (m.after past).lookups = m.lookups := rfl
  have cells (mount : String) : (m.after past).cell mount = m.cell mount := rfl
  have session : (m.after past).session = m.session.after past := rfl
  unfold advance
  rw [lookups]
  cases m.lookups[i]? with
  | none => rfl
  | some l =>
    dsimp only
    cases l.stage with
    | settled result => rfl
    | waiting =>
      dsimp only
      rw [cells]
      cases m.cell l.mount with
      | asking => rfl
      | known shape => rfl
      | vacant =>
        dsimp only
        rw [session, Session.mountVersion_after]
        rfl
    | asking answer =>
      dsimp only
      rw [session, Session.log_after]
      rfl

end Engine.Lookups

namespace Resolution.Progress

def after (past : List Occurrence) (p : Progress σ) : Progress σ := { p with lookups := p.lookups.after past }

theorem advance_after (store : Store σ) (past : List Occurrence) (p : Progress σ) (i : Nat) :
    (p.after past).advance store i = (p.advance store i).map (after past) := by
  have fetches : (p.after past).fetches = p.fetches := rfl
  have free : (p.after past).mayStart i = p.mayStart i := rfl
  have results : (p.after past).lookups.result? i = p.lookups.result? i := rfl
  have session : (p.after past).session = p.session.after past := rfl
  unfold advance
  rw [fetches]
  cases p.fetches[i]? with
  | none => rfl
  | some f =>
    dsimp only
    cases f.stage with
    | finished outcome => rfl
    | queued =>
      dsimp only
      rw [free]
      split
      · rfl
      · rfl
    | classifying =>
      dsimp only
      rw [results]
      cases p.lookups.result? i with
      | none =>
        dsimp only
        rw [show (p.after past).lookups = p.lookups.after past from rfl, Lookups.advance_after]
        cases p.lookups.advance store i with
        | none => rfl
        | some lookups => rfl
      | some result =>
        cases result with
        | error cause => rfl
        | ok shape =>
          dsimp only
          rw [session, Session.log_after, Session.read_after]
          rfl
    | reading shape answer =>
      dsimp only
      rw [session, Session.log_after]
      rfl

theorem step_after (store : Store σ) (past : List Occurrence) (p : Progress σ) (i : Nat) :
    (p.after past).step store i = (p.step store i).after past := by
  unfold step
  rw [advance_after]
  cases p.advance store i with
  | none => rfl
  | some p' => rfl

theorem run_after (store : Store σ) (past : List Occurrence) (p : Progress σ) (schedule : List Nat) :
    (p.after past).run store schedule = (p.run store schedule).after past := by
  induction schedule generalizing p with
  | nil => rfl
  | cons i rest ih =>
    show ((p.after past).step store i).run store rest = ((p.step store i).run store rest).after past
    rw [step_after, ih]

theorem rounds_after (store : Store σ) (past : List Occurrence) (n : Nat) (p : Progress σ) :
    rounds store n (p.after past) = (rounds store n p).after past := by
  induction n generalizing p with
  | zero => rfl
  | succ n ih =>
    have window : (p.after past).window = p.window := rfl
    unfold rounds
    rw [window]
    split
    · rfl
    · rw [run_after, ih]

end Resolution.Progress

namespace Resolution

open Progress

theorem resolveBatch_after (store : Store σ) (limit : Nat) (schedule : List Nat) (batch : Batch)
    (past : List Occurrence) (s : Session σ) :
    resolveBatch store limit schedule batch (s.after past) =
      ((resolveBatch store limit schedule batch s).1, (resolveBatch store limit schedule batch s).2.after past) := by
  have first : ofBatch batch limit ((s.after past).log [beginNotice batch store.name]) =
      (ofBatch batch limit (s.log [beginNotice batch store.name])).after past := by
    rw [Session.log_after]
    rfl
  have last : ((ofBatch batch limit ((s.after past).log [beginNotice batch store.name])).run store schedule).complete
        store =
      (((ofBatch batch limit (s.log [beginNotice batch store.name])).run store schedule).complete
        store).after past := by
    rw [first, run_after]
    exact rounds_after store past _ _
  unfold resolveBatch
  dsimp only
  rw [last]
  refine Prod.ext rfl ?_
  show (((Progress.complete store _).session.after past).log _).log _ = _
  rw [Session.log_after, Session.log_after]
  rfl

theorem resolve_after (store : Store σ) (limit : Nat) (schedule : List Nat) (placeholders : List String)
    (past : List Occurrence) (s : Session σ) :
    resolve store limit schedule placeholders (s.after past) =
      ((resolve store limit schedule placeholders s).1,
        (resolve store limit schedule placeholders s).2.after past) := by
  unfold resolve
  dsimp only
  rw [Session.log_after]
  cases (Batch.read placeholders).value with
  | error cause => rfl
  | ok batch =>
    dsimp only
    rw [resolveBatch_after]

end Resolution

end SecretTemplate
