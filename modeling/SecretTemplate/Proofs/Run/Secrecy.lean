import SecretTemplate.Proofs.Files.Writing
import SecretTemplate.Proofs.Resolution.Alike
import SecretTemplate.Run

namespace SecretTemplate

namespace Files

/-- Both were written to one path, from the same files. -/
def Written (before : Files) (path : String) (one other : Files) : Prop :=
  ∃ bytes bytes', before.write path bytes = .ok one ∧ before.write path bytes' = .ok other

theorem agree_write (fs : Files) (path : String) (bytes bytes' : Text.Utf8.Bytes) :
    Agree (fs.Written path) (fs.write path bytes) (fs.write path bytes') := by
  cases wrote : fs.write path bytes with
  | ok one =>
    obtain ⟨other, wrote'⟩ := Writable.write ⟨bytes, one, wrote⟩ bytes'
    rw [wrote']
    exact .ok ⟨bytes, bytes', wrote, wrote'⟩
  | error cause =>
    rw [write_error wrote bytes']
    exact .error cause

end Files

variable {σ τ : Type} {R : σ → τ → Prop}

namespace Run

/-- The results of two runs from the same files, with nothing to tell them apart but what they wrote to the output. -/
structure Alike (R : σ → τ → Prop) (output : String) (before : Files) (x : Except Failure Report × World σ)
    (y : Except Failure Report × World τ) : Prop where
  result : x.1 = y.1
  session : x.2.session.Alike R y.2.session
  files : x.2.files = before ∧ y.2.files = before ∨ before.Written output x.2.files y.2.files

variable {store : Store σ} {store' : Store τ} {settings : Settings} {r r' : Resolution} {fs : Files}
  {s : Session σ} {t : Session τ}

theorem renderNotice_eq {e e' : String × Reference} (same : e.1 = e'.1) (alike : e.2.Alike e'.2) :
    Placeholder.renderNotice e = Placeholder.renderNotice e' := by
  unfold Placeholder.renderNotice
  rw [alike.value.isEmpty_eq, same, alike.storePath]

theorem unfilled_eq (alike : r.Alike r') : Placeholder.unfilled r.batch = Placeholder.unfilled r'.batch := by
  have split (batch : Batch) : Placeholder.unfilled batch =
      ((batch.entries.map fun e => (e.1, e.2.value.isEmpty)).filter (·.2)).map (·.1) := by
    rw [List.filter_map, List.map_map]
    rfl
  rw [split, split]
  congr 2
  exact map_eq_of_forall₂ alike.batch fun e e' ⟨same, references⟩ => by rw [same, references.value.isEmpty_eq]

theorem alike_renderTo (alike : r.Alike r') (template : Template) (output : String) (fs : Files) :
    Agree (fun one other => one.1.skipped = other.1.skipped ∧ fs.Written output one.2 other.2)
        (template.renderTo r.batch output fs).value (template.renderTo r'.batch output fs).value ∧
      (template.renderTo r.batch output fs).events = (template.renderTo r'.batch output fs).events := by
  have notices : (Placeholder.render template.contents r.batch).events =
      (Placeholder.render template.contents r'.batch).events :=
    map_eq_of_forall₂ alike.batch fun _ _ ⟨same, references⟩ => renderNotice_eq same references
  have writes := fs.agree_write output (Placeholder.render template.contents r.batch).value.text
    (Placeholder.render template.contents r'.batch).value.text
  have skipped := unfilled_eq alike
  unfold Template.renderTo
  dsimp only
  generalize fs.write output _ = x, fs.write output (Placeholder.render template.contents r'.batch).value.text = y
    at writes
  rw [notices]
  cases writes with
  | error cause => exact ⟨.error _, rfl⟩
  | ok written => exact ⟨.ok ⟨skipped, written⟩, rfl⟩

theorem alike_writeOut (alike : r.Alike r') (settings : Settings) (template : Template) (tolerated : List String)
    (fs : Files) (sessions : s.Alike R t) :
    Alike R settings.outputFile fs (writeOut settings template r tolerated ⟨fs, s⟩)
      (writeOut settings template r' tolerated ⟨fs, t⟩) := by
  obtain ⟨values, events⟩ := alike_renderTo alike template settings.outputFile fs
  have size : r.batch.size = r'.batch.size := alike.batch.length_eq
  unfold writeOut
  generalize template.renderTo r.batch settings.outputFile fs = x,
    template.renderTo r'.batch settings.outputFile fs = y at values events
  obtain ⟨value, logged⟩ := x
  obtain ⟨value', logged'⟩ := y
  dsimp only at values events ⊢
  rw [events, size, alike.resolved]
  cases values with
  | error cause =>
    dsimp only [failureOf]
    cases tolerate settings tolerated (some cause) with
    | error cause => exact ⟨rfl, (sessions.log _).log _, .inl ⟨rfl, rfl⟩⟩
    | ok tolerated => exact ⟨rfl, ((sessions.log _).log _).log _, .inl ⟨rfl, rfl⟩⟩
  | ok related =>
    obtain ⟨skipped, written⟩ := related
    dsimp only [failureOf]
    rw [skipped]
    cases tolerate settings tolerated none with
    | error cause => exact ⟨rfl, (sessions.log _).log _, .inl ⟨rfl, rfl⟩⟩
    | ok tolerated => exact ⟨rfl, ((sessions.log _).log _).log _, .inr written⟩

theorem alike_resolveAndRender (stores : store.Alike R store') (one : settings.connection.concurrency ≤ 1)
    (schedule schedule' : List Nat) (template : Template) (tolerated : List String) (fs : Files)
    (sessions : s.Alike R t) :
    Alike R settings.outputFile fs (resolveAndRender store settings schedule template tolerated ⟨fs, s⟩)
      (resolveAndRender store' settings schedule' template tolerated ⟨fs, t⟩) := by
  obtain ⟨results, ends⟩ := Resolution.agree_resolve stores one schedule schedule' template.placeholders sessions
  unfold resolveAndRender
  generalize resolve store settings.connection.concurrency schedule template.placeholders s = x,
    resolve store' settings.connection.concurrency schedule' template.placeholders t = y at results ends
  obtain ⟨result, s'⟩ := x
  obtain ⟨result', t'⟩ := y
  dsimp only at results ends ⊢
  cases results with
  | error cause => exact ⟨rfl, ends, .inl ⟨rfl, rfl⟩⟩
  | ok alike =>
    dsimp only
    rw [alike.failure?]
    cases tolerate settings tolerated _ with
    | error cause => exact ⟨rfl, ends.log _, .inl ⟨rfl, rfl⟩⟩
    | ok tolerated => exact alike_writeOut alike settings template tolerated fs (ends.log _)

theorem alike_loginAndResolve (stores : store.Alike R store') (one : settings.connection.concurrency ≤ 1)
    (schedule schedule' : List Nat) (template : Template) (fs : Files) (sessions : s.Alike R t) :
    Alike R settings.outputFile fs (loginAndResolve store settings schedule template ⟨fs, s⟩)
      (loginAndResolve store' settings schedule' template ⟨fs, t⟩) := by
  obtain ⟨answers, admitted⟩ := sessions.ask (.authenticate settings.connection.role)
    (stores.authenticate sessions.state settings.connection.role)
  have answer : (s.authenticate store settings.connection.role).1 =
    (t.authenticate store' settings.connection.role).1 := answers
  unfold loginAndResolve
  dsimp only
  rw [answer]
  cases tolerate settings [] _ with
  | error cause => exact ⟨rfl, admitted.log _, .inl ⟨rfl, rfl⟩⟩
  | ok tolerated =>
    exact alike_resolveAndRender stores one schedule schedule' template tolerated fs (admitted.log _)

theorem alike_run (stores : store.Alike R store') (one : settings.connection.concurrency ≤ 1)
    (schedule schedule' : List Nat) (fs : Files) (sessions : s.Alike R t) :
    Alike R settings.outputFile fs (run store settings schedule ⟨fs, s⟩) (run store' settings schedule' ⟨fs, t⟩) := by
  unfold run
  dsimp only
  cases Template.openFile fs settings.inputFile with
  | error cause => exact ⟨rfl, sessions, .inl ⟨rfl, rfl⟩⟩
  | ok template => exact alike_loginAndResolve stores one schedule schedule' template fs (sessions.log _)

/-- One fetch at a time, two stores that differ in the texts of their fields, each as long there and redacted in the
    same way, make for the same result, the same events and the same calls. Only the output file may differ. -/
theorem run_hides_values (stores : store.Alike R store') (one : settings.connection.concurrency ≤ 1)
    (schedule schedule' : List Nat) (fs : Files) (past : List Occurrence) {state : σ} {state' : τ}
    (states : R state state') :
    let x := run store settings schedule ⟨fs, ⟨state, past⟩⟩
    let y := run store' settings schedule' ⟨fs, ⟨state', past⟩⟩
    x.1 = y.1 ∧ x.2.session.trace = y.2.session.trace ∧
      (x.2.files = fs ∧ y.2.files = fs ∨
        ∃ bytes bytes', fs.DifferAt x.2.files settings.outputFile bytes ∧
          fs.DifferAt y.2.files settings.outputFile bytes' ∧
          x.2.files.DifferAt y.2.files settings.outputFile bytes') := by
  have sessions : Session.Alike R ⟨state, past⟩ ⟨state', past⟩ := ⟨states, rfl⟩
  have alike := alike_run stores one schedule schedule' fs sessions
  refine ⟨alike.result, alike.session.trace, alike.files.imp id ?_⟩
  rintro ⟨bytes, bytes', wrote, wrote'⟩
  exact ⟨bytes, bytes', Files.differAt_of_write wrote, Files.differAt_of_write wrote',
    Files.differAt_of_write (Files.write_write wrote wrote')⟩

def holding (text : String) : Store Unit where
  name := "holding"
  authenticate _ _ := ⟨.ok (), [], ()⟩
  mountVersion _ _ := ⟨.ok (some "1"), [], ()⟩
  read _ _ := ⟨.ok (some (.object [("k", .string text)])), [], ()⟩

theorem alike_holding {text text' : String} (texts : Text.Alike text text') :
    (holding text).Alike Eq (holding text') where
  name := rfl
  authenticate _ _ := ⟨rfl, rfl, rfl⟩
  mountVersion _ _ := ⟨rfl, rfl, rfl⟩
  read _ _ := ⟨.ok (.some (.object rfl (.cons (.scalar rfl rfl texts) .nil))), rfl, rfl⟩

theorem run_hides_values_two_passwords :
    let settings : Settings := { inputFile := "t", outputFile := "o", connection := { concurrency := 1 } }
    let fs : Files := { nodes := [(["t"], .file (Text.Utf8.encode "{{ s!k }}"))] }
    let x := run (holding "hunter2000") settings [] ⟨fs, ⟨(), []⟩⟩
    let y := run (holding "hunger9900") settings [] ⟨fs, ⟨(), []⟩⟩
    Text.Alike "hunter2000" "hunger9900" ∧ x.1 = y.1 ∧ x.2.session.trace = y.2.session.trace ∧
      x.2.files.read "o" = .ok (Text.Utf8.encode "hunter2000") ∧
      y.2.files.read "o" = .ok (Text.Utf8.encode "hunger9900") := by
  intro settings fs x y
  have texts : Text.Alike "hunter2000" "hunger9900" := .inr ⟨by decide, by decide, by decide +kernel⟩
  have one : settings.connection.concurrency ≤ 1 := Nat.le_refl 1
  obtain ⟨result, trace, -⟩ := run_hides_values (alike_holding texts) one [] [] fs [] rfl
  exact ⟨texts, result, trace, by decide +kernel, by decide +kernel⟩

end Run

end SecretTemplate
