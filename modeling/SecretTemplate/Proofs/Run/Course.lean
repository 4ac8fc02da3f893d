import SecretTemplate.Run
import SecretTemplate.Proofs.Files.Writing
import SecretTemplate.Proofs.Resolution.Traces

namespace SecretTemplate

namespace Run

open Placeholder (render unfilled)

variable {σ : Type}

def admission (store : Store σ) (settings : Settings) (w : World σ) : Reply σ (Except Failure Unit) :=
  store.authenticate settings.connection.role w.session.state

/-- The resolution of a template's placeholders after the login. -/
def resolving (store : Store σ) (settings : Settings) (schedule : List Nat) (t : Template) (w : World σ) :
    Except Failure Resolution × Session σ :=
  resolve store settings.connection.concurrency schedule t.placeholders ⟨(admission store settings w).next, []⟩

def writing (settings : Settings) (t : Template) (r : Resolution) (fs : Files) : Except Failure Files :=
  match fs.write settings.outputFile (render t.contents r.batch).value.text with
  | .ok files => .ok files
  | .error cause => .error (.outputUnwritable settings.outputFile cause)

/-- The failures of a run that may be tolerated, in the order in which they come. -/
def setbacks (store : Store σ) (settings : Settings) (t : Template) (r : Resolution) (w : World σ) : List Failure :=
  (failureOf (admission store settings w).answer).toList ++ r.failure?.toList ++
    (failureOf (writing settings t r w.files)).toList

def report (t : Template) (r : Resolution) (written : Except Failure Files) (tolerated : List Failure) : Report where
  placeholders := t.placeholders.length
  distinct := r.batch.size
  resolved := r.resolved
  unrendered := if (failureOf written).isNone then unfilled r.batch else []
  tolerated := tolerated.map Failure.message

/-- The result of a run, the calls that it makes, and the files that it leaves. -/
inductive Course (store : Store σ) (settings : Settings) (schedule : List Nat) (w : World σ) :
    Except Failure Report → List Call → Files → Prop
  | unopened {cause : Failure} (closed : Template.openFile w.files settings.inputFile = .error cause) :
      Course store settings schedule w (.error cause) [] w.files
  | rejected {t : Template} {cause : Failure} (opened : Template.openFile w.files settings.inputFile = .ok t)
      (strict : settings.continueOnError = false) (refused : (admission store settings w).answer = .error cause) :
      Course store settings schedule w (.error cause) [.authenticate settings.connection.role] w.files
  | unusable {t : Template} {cause : Failure} (opened : Template.openFile w.files settings.inputFile = .ok t)
      (passed : settings.continueOnError = true ∨ (admission store settings w).answer = .ok ())
      (unread : (resolving store settings schedule t w).1 = .error cause) :
      Course store settings schedule w (.error cause)
        (.authenticate settings.connection.role :: (resolving store settings schedule t w).2.calls) w.files
  | failed {t : Template} {r : Resolution} {cause : Failure}
      (opened : Template.openFile w.files settings.inputFile = .ok t)
      (strict : settings.continueOnError = false) (admitted : (admission store settings w).answer = .ok ())
      (resolved : (resolving store settings schedule t w).1 = .ok r)
      (first : (setbacks store settings t r w).head? = some cause) :
      Course store settings schedule w (.error cause)
        (.authenticate settings.connection.role :: (resolving store settings schedule t w).2.calls) w.files
  | ended {t : Template} {r : Resolution} (opened : Template.openFile w.files settings.inputFile = .ok t)
      (resolved : (resolving store settings schedule t w).1 = .ok r)
      (passed : settings.continueOnError = true ∨ setbacks store settings t r w = []) :
      Course store settings schedule w
        (.ok (report t r (writing settings t r w.files) (setbacks store settings t r w)))
        (.authenticate settings.connection.role :: (resolving store settings schedule t w).2.calls)
        ((writing settings t r w.files).toOption.getD w.files)

variable {store : Store σ} {settings : Settings} {schedule : List Nat} {w : World σ} {t : Template}

theorem openFile_eq_ok_iff {fs : Files} {path : String} :
    Template.openFile fs path = .ok t ↔ ∃ contents, fs.read path = .ok contents ∧ ⟨path, contents⟩ = t := by
  unfold Template.openFile
  cases fs.read path with
  | ok contents => simp
  | error cause => by_cases missing : cause = .notFound <;> simp [missing]

theorem openFile_of_read {fs : Files} {path : String} {bytes : Text.Utf8.Bytes} (h : fs.read path = .ok bytes) :
    Template.openFile fs path = .ok ⟨path, bytes⟩ := openFile_eq_ok_iff.mpr ⟨bytes, h, rfl⟩

theorem tolerate_messages (settings : Settings) (tolerated : List Failure) (failure : Option Failure) :
    (∃ cause, settings.continueOnError = false ∧ failure = some cause ∧
      tolerate settings (tolerated.map Failure.message) failure = .error cause) ∨
    (settings.continueOnError = true ∨ failure = none) ∧
      tolerate settings (tolerated.map Failure.message) failure =
        .ok ((tolerated ++ failure.toList).map Failure.message) := by
  cases failure with
  | none => exact .inr ⟨.inr rfl, by simp [tolerate]⟩
  | some cause =>
    cases policy : settings.continueOnError with
    | false => exact .inl ⟨cause, rfl, rfl, by simp [tolerate, policy]⟩
    | true => exact .inr ⟨.inl rfl, by simp [tolerate, policy]⟩

@[simp]
theorem failureOf_ok {α : Type} (value : α) : failureOf (.ok value : Except Failure α) = none := rfl

@[simp]
theorem failureOf_error {α : Type} (cause : Failure) : failureOf (.error cause : Except Failure α) = some cause := rfl

theorem failureOf_eq_some_iff {α : Type} {result : Except Failure α} {cause : Failure} :
    failureOf result = some cause ↔ result = .error cause := by
  cases result <;> simp

theorem failureOf_eq_none_iff {result : Except Failure Unit} : failureOf result = none ↔ result = .ok () := by
  cases result <;> simp

theorem answer_of_strict (strict : settings.continueOnError = false)
    (passed : settings.continueOnError = true ∨ (admission store settings w).answer = .ok ()) :
    (admission store settings w).answer = .ok () :=
  passed.resolve_left (by simp [strict])

theorem value_renderTo (t : Template) (r : Resolution) (fs : Files) :
    (t.renderTo r.batch settings.outputFile fs).value =
      (writing settings t r fs).map fun files => ((render t.contents r.batch).value, files) := by
  unfold Template.renderTo writing
  dsimp only
  cases fs.write settings.outputFile (render t.contents r.batch).value.text <;> rfl

theorem writeOut_course (settings : Settings) (t : Template) (r : Resolution) (tolerated : List Failure)
    (w : World σ) {written : Except Failure Files} (wrote : writing settings t r w.files = written) :
    let result := writeOut settings t r (tolerated.map Failure.message) w
    result.2.session.calls = w.session.calls ∧
      ((∃ cause, settings.continueOnError = false ∧ failureOf written = some cause ∧ result.1 = .error cause ∧
          result.2.files = w.files) ∨
        (settings.continueOnError = true ∨ failureOf written = none) ∧
          result.1 = .ok (report t r written (tolerated ++ (failureOf written).toList)) ∧
          result.2.files = written.toOption.getD w.files) := by
  have value : (t.renderTo r.batch settings.outputFile w.files).value =
      (writing settings t r w.files).map fun files => ((render t.contents r.batch).value, files) :=
    value_renderTo t r w.files
  unfold writeOut
  cases rendered : t.renderTo r.batch settings.outputFile w.files with
  | mk outcome events =>
    rw [rendered, wrote] at value
    dsimp only at value
    subst value
    cases written with
    | error cause =>
      dsimp only [Except.map, failureOf]
      rcases tolerate_messages settings tolerated (some cause) with ⟨_, strict, same, ends⟩ | ⟨passed, goes⟩
      · cases same
        rw [ends]
        exact ⟨by simp only [World.log, Session.calls_log], .inl ⟨cause, strict, rfl, rfl, rfl⟩⟩
      · rw [goes]
        exact ⟨by simp only [World.log, Session.calls_log], .inr ⟨passed, rfl, rfl⟩⟩
    | ok files =>
      dsimp only [Except.map, failureOf]
      rcases tolerate_messages settings tolerated none with ⟨_, -, wrong, -⟩ | ⟨passed, goes⟩
      · cases wrong
      · rw [goes]
        exact ⟨by simp only [World.log, Session.calls_log], .inr ⟨passed, rfl, rfl⟩⟩

theorem resolveAndRender_course (schedule : List Nat) {before : World σ}
    (opened : Template.openFile w.files settings.inputFile = .ok t)
    (passed : settings.continueOnError = true ∨ (admission store settings w).answer = .ok ())
    (files : before.files = w.files) (state : before.session.state = (admission store settings w).next) :
    let refusals := (failureOf (admission store settings w).answer).toList
    let result := resolveAndRender store settings schedule t (refusals.map Failure.message) before
    let asked := (resolving store settings schedule t w).2.calls
    result.2.session.calls = before.session.calls ++ asked ∧
      Course store settings schedule w result.1 (.authenticate settings.connection.role :: asked) result.2.files := by
  -- What was logged and called before does not matter to the resolution, only the state that the login left.
  have resumed : resolve store settings.connection.concurrency schedule t.placeholders before.session =
      ((resolving store settings schedule t w).1,
        (resolving store settings schedule t w).2.after before.session.trace) := by
    rw [resolving, ← state, ← Resolution.resolve_after, Session.after_nil]
  have calls : ((resolving store settings schedule t w).2.after before.session.trace).calls =
      before.session.calls ++ (resolving store settings schedule t w).2.calls := Session.calls_after _ _
  dsimp only
  unfold resolveAndRender
  rw [resumed]
  cases resolved : (resolving store settings schedule t w).1 with
  | error cause => exact ⟨calls, files ▸ .unusable opened passed resolved⟩
  | ok r =>
    dsimp only
    rcases tolerate_messages settings _ r.failure? with ⟨cause, strict, failed, ends⟩ | ⟨passed', goes⟩
    · rw [ends]
      -- A strict run that came so far was let in, so this failure is its first.
      have admitted := answer_of_strict strict passed
      refine ⟨(Session.calls_log _ _).trans calls, ?_⟩
      have first : (setbacks store settings t r w).head? = some cause := by
        simp [setbacks, admitted, failed]
      exact files ▸ .failed opened strict admitted resolved first
    · rw [goes]
      dsimp only
      have wrote : writing settings t r before.files = writing settings t r w.files := by rw [files]
      have course := writeOut_course settings t r
        ((failureOf (admission store settings w).answer).toList ++ r.failure?.toList)
        (({ before with session := (resolving store settings schedule t w).2.after before.session.trace } :
          World σ).log (tolerateNotices settings r.failure?)) wrote
      obtain ⟨same, ⟨cause, strict, failed, ends, left⟩ | ⟨passed'', ends, left⟩⟩ := course
      · refine ⟨same.trans ((Session.calls_log _ _).trans calls), ?_⟩
        have admitted := answer_of_strict strict passed
        have complete := passed'.resolve_left (by simp [strict])
        have first : (setbacks store settings t r w).head? = some cause := by
          simp [setbacks, admitted, complete, failed]
        rw [ends, left]
        exact files ▸ .failed opened strict admitted resolved first
      · refine ⟨same.trans ((Session.calls_log _ _).trans calls), ?_⟩
        rw [ends, left]
        show Course store settings schedule w _ _ ((writing settings t r w.files).toOption.getD before.files)
        rw [files]
        refine .ended opened resolved ?_
        cases policy : settings.continueOnError with
        | true => exact .inl rfl
        | false =>
          simp only [policy, Bool.false_eq_true, false_or] at passed passed' passed''
          exact .inr (by simp [setbacks, passed, passed', passed''])

/-- A run takes its course, and appends its calls to those made before. -/
theorem course_run (store : Store σ) (settings : Settings) (schedule : List Nat) (w : World σ) :
    ∃ asked, (run store settings schedule w).2.session.calls = w.session.calls ++ asked ∧
      Course store settings schedule w (run store settings schedule w).1 asked
        (run store settings schedule w).2.files := by
  unfold run
  cases opened : Template.openFile w.files settings.inputFile with
  | error cause => exact ⟨[], (List.append_nil _).symm, .unopened opened⟩
  | ok t =>
    dsimp only
    unfold loginAndResolve
    have answer : ((w.log [foundNotice t]).session.authenticate store settings.connection.role).1 =
      (admission store settings w).answer := rfl
    dsimp only
    rw [answer, show ([] : List String) = [].map Failure.message from rfl]
    generalize before : World.log _ (tolerateNotices settings (failureOf (admission store settings w).answer)) = w'
    have calls : w'.session.calls = w.session.calls ++ [.authenticate settings.connection.role] := by
      rw [← before, World.log, Session.calls_log, Session.authenticate, Session.calls_ask]
      exact congrArg (· ++ _) (Session.calls_log _ _)
    have files : w'.files = w.files := by rw [← before]; rfl
    have state : w'.session.state = (admission store settings w).next := by rw [← before]; rfl
    rcases tolerate_messages settings [] (failureOf (admission store settings w).answer) with
      ⟨cause, strict, failed, ends⟩ | ⟨passed, goes⟩
    · rw [ends]
      exact ⟨_, calls, files ▸ .rejected opened strict (failureOf_eq_some_iff.mp failed)⟩
    · rw [goes]
      rw [failureOf_eq_none_iff] at passed
      have ends := resolveAndRender_course schedule opened passed files state
      obtain ⟨further, course⟩ := ends
      refine ⟨_, further.trans ?_, course⟩
      rw [calls, List.append_assoc]
      rfl

end Run

end SecretTemplate
