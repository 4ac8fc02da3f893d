import SecretTemplate.Proofs.Batch.Reading
import SecretTemplate.Proofs.Resolution.OneAtATime
import SecretTemplate.Proofs.Run.Course

namespace SecretTemplate

def Settings.strict (settings : Settings) : Settings := { settings with continueOnError := false }

def Settings.lenient (settings : Settings) : Settings := { settings with continueOnError := true }

/-- There is no template, or one that cannot be used: no run tolerates that. -/
inductive Failure.Fatal : Failure → Prop
  | notFound (path : String) : Fatal (.templateNotFound path)
  | unreadable (path : String) (cause : FileError) : Fatal (.templateUnreadable path cause)
  | unusable (placeholder : String) (cause : Failure) : Fatal (.unusablePlaceholder placeholder cause)

variable {σ : Type}

namespace Run

variable {store : Store σ} {settings : Settings} {schedule schedule' : List Nat} {w : World σ}
  {t : Template} {r : Resolution}

theorem fatal_of_openFile {fs : Files} {path : String} {cause : Failure}
    (closed : Template.openFile fs path = .error cause) : cause.Fatal := by
  unfold Template.openFile at closed
  split at closed
  · cases closed
  · split at closed
    · cases closed
      exact .notFound _
    · cases closed
      exact .unreadable _ _

theorem fatal_of_resolving {cause : Failure} (unread : (resolving store settings schedule t w).1 = .error cause) :
    ∃ p fault, cause = .unusablePlaceholder p fault := by
  obtain ⟨p, -, fault, -, named⟩ := Batch.ofPlaceholders_eq_error ((Resolution.resolve_eq_error_iff ..).mp unread)
  exact ⟨p, _, named⟩

theorem partial_of_failure {cause : Failure} (failed : r.failure? = some cause) :
    ∃ messages, cause = .partialResolution messages := by
  unfold Resolution.failure? at failed
  split at failed
  · cases failed
  · cases failed
    exact ⟨_, rfl⟩

theorem unwritable_of_writing {fs : Files} {cause : Failure} (refused : writing settings t r fs = .error cause) :
    ∃ error, cause = .outputUnwritable settings.outputFile error := by
  unfold writing at refused
  split at refused
  · cases refused
  · cases refused
    exact ⟨_, rfl⟩

theorem exists_map_eq {α β : Type} {f : α → β} {result : Option β} (all : ∀ b, result = some b → ∃ a, b = f a) :
    ∃ source : Option α, result = source.map f := by
  cases result with
  | none => exact ⟨none, rfl⟩
  | some b =>
    obtain ⟨a, rfl⟩ := all b rfl
    exact ⟨some a, rfl⟩

/-- A login fails in one way only. -/
def LoginsRefused (store : Store σ) : Prop :=
  ∀ role state cause, (store.authenticate role state).answer = .error cause → ∃ text, cause = .authentication text

theorem setbacks_kinds (logins : LoginsRefused store) (settings : Settings) (t : Template) (r : Resolution)
    (w : World σ) :
    ∃ (refused : Option String) (unresolved : Option (List String)) (unwritten : Option FileError),
      setbacks store settings t r w = (refused.map .authentication).toList ++
        (unresolved.map .partialResolution).toList ++
        (unwritten.map (.outputUnwritable settings.outputFile)).toList := by
  have first (cause : Failure) (failed : failureOf (admission store settings w).answer = some cause) :
      ∃ text, cause = .authentication text := logins _ _ cause (failureOf_eq_some_iff.mp failed)
  have third (cause : Failure) (failed : failureOf (writing settings t r w.files) = some cause) :
      ∃ fault, cause = .outputUnwritable settings.outputFile fault :=
    unwritable_of_writing (failureOf_eq_some_iff.mp failed)
  obtain ⟨refused, first⟩ := exists_map_eq first
  obtain ⟨unresolved, second⟩ := exists_map_eq fun cause (failed : r.failure? = some cause) => partial_of_failure failed
  obtain ⟨unwritten, third⟩ := exists_map_eq third
  exact ⟨refused, unresolved, unwritten, by rw [setbacks, first, second, third]⟩

theorem not_fatal_of_setback (logins : LoginsRefused store) {cause : Failure}
    (member : cause ∈ setbacks store settings t r w) : ¬ cause.Fatal := by
  obtain ⟨refused, unresolved, unwritten, kinds⟩ := setbacks_kinds logins settings t r w
  rw [kinds] at member
  simp only [List.mem_append, Option.mem_toList, Option.map_eq_some_iff] at member
  rcases member with (⟨_, -, rfl⟩ | ⟨_, -, rfl⟩) | ⟨_, -, rfl⟩ <;> rintro ⟨⟩

namespace Course

variable {result : Except Failure Report} {asked asked' : List Call} {files files' : Files}

theorem lenient_of_closed {cause : Failure} (lenient : Course store settings.lenient schedule w result asked files)
    (closed : Template.openFile w.files settings.inputFile = .error cause) : result = .error cause ∧ asked = [] := by
  cases lenient with
  | unopened closed' =>
    cases closed.symm.trans closed'
    exact ⟨rfl, rfl⟩
  | rejected opened | unusable opened | failed opened | ended opened => cases closed.symm.trans opened

theorem lenient_of_opened (lenient : Course store settings.lenient schedule w result asked files)
    (opened : Template.openFile w.files settings.inputFile = .ok t) :
    asked = .authenticate settings.connection.role :: (resolving store settings schedule t w).2.calls ∧
      match (resolving store settings schedule t w).1 with
      | .error cause => result = .error cause
      | .ok r => result = .ok (report t r (writing settings t r w.files) (setbacks store settings t r w)) ∧
          files = (writing settings t r w.files).toOption.getD w.files := by
  cases lenient with
  | unopened closed => cases opened.symm.trans closed
  | rejected _ policy | failed _ policy => cases policy
  | unusable opened' _ unread =>
    cases opened.symm.trans opened'
    refine ⟨rfl, ?_⟩
    rw [show (resolving store settings schedule t w).1 = _ from unread]
  | ended opened' resolved =>
    cases opened.symm.trans opened'
    refine ⟨rfl, ?_⟩
    rw [show (resolving store settings schedule t w).1 = _ from resolved]
    exact ⟨rfl, rfl⟩

theorem resolving_one (one : settings.connection.concurrency = 1) (schedule schedule' : List Nat) (t : Template)
    (w : World σ) : resolving store settings schedule' t w = resolving store settings.strict schedule t w :=
  Resolution.resolve_one_at_a_time store one.le schedule' schedule t.placeholders _

theorem lenient_of_ok (one : settings.connection.concurrency = 1) {report : Report}
    (strict : Course store settings.strict schedule w (.ok report) asked files)
    (lenient : Course store settings.lenient schedule' w result asked' files') :
    result = .ok report ∧ report.tolerated = [] ∧ files' = files ∧ asked' = asked := by
  cases strict with
  | @ended t r opened resolved passed =>
    have none : setbacks store settings.strict t r w = [] := passed.resolve_left Bool.false_ne_true
    obtain ⟨calls, same⟩ := lenient.lenient_of_opened opened
    rw [resolving_one one schedule] at calls same
    rw [resolved] at same
    refine ⟨same.1, ?_, same.2, calls⟩
    rw [Run.report, none]
    rfl

theorem lenient_of_error (logins : LoginsRefused store) (one : settings.connection.concurrency = 1) {cause : Failure}
    (strict : Course store settings.strict schedule w (.error cause) asked files)
    (lenient : Course store settings.lenient schedule' w result asked' files') :
    (cause.Fatal → result = .error cause) ∧
      (¬ cause.Fatal →
        ((∃ text, cause = .authentication text) ∧ ∃ p fault, result = .error (.unusablePlaceholder p fault)) ∨
          ∃ report, result = .ok report ∧ report.tolerated.head? = some cause.message) := by
  cases strict with
  | unopened closed =>
    have fatal := fatal_of_openFile closed
    exact ⟨fun _ => (lenient.lenient_of_closed closed).1, fun other => (other fatal).elim⟩
  | @rejected t _ opened policy refused =>
    obtain ⟨text, rfl⟩ := logins _ _ _ refused
    refine ⟨fun fatal => (by cases fatal), fun _ => ?_⟩
    -- The lenient run goes on to read the placeholders, which the strict one never did.
    obtain ⟨-, outcome⟩ := lenient.lenient_of_opened opened
    cases resolved : (resolving store settings schedule' t w).1 with
    | error cause =>
      rw [resolved] at outcome
      obtain ⟨p, fault, rfl⟩ := fatal_of_resolving resolved
      exact .inl ⟨⟨text, rfl⟩, p, fault, outcome⟩
    | ok r =>
      rw [resolved] at outcome
      refine .inr ⟨_, outcome.1, ?_⟩
      have first : (admission store settings w).answer = .error (.authentication text) := refused
      simp [Run.report, setbacks, first]
  | @unusable t _ opened passed unread =>
    obtain ⟨-, outcome⟩ := lenient.lenient_of_opened opened
    rw [resolving_one one schedule, unread] at outcome
    obtain ⟨p, fault, rfl⟩ := fatal_of_resolving unread
    exact ⟨fun _ => outcome, fun other => (other (.unusable p fault)).elim⟩
  | @failed t r _ opened policy admitted resolved first =>
    have tolerable := not_fatal_of_setback logins (List.mem_of_mem_head? first)
    obtain ⟨-, outcome⟩ := lenient.lenient_of_opened opened
    rw [resolving_one one schedule, resolved] at outcome
    refine ⟨fun fatal => (tolerable fatal).elim, fun _ => .inr ⟨_, outcome.1, ?_⟩⟩
    have head : (setbacks store settings t r w).head? = some cause := first
    rw [Run.report, List.head?_map, head]
    rfl

theorem prefix_lenient (one : settings.connection.concurrency = 1) {strictResult : Except Failure Report}
    (strict : Course store settings.strict schedule w strictResult asked files)
    (lenient : Course store settings.lenient schedule' w result asked' files') : asked <+: asked' := by
  cases strict with
  | unopened => exact List.nil_prefix
  | rejected opened =>
    rw [(lenient.lenient_of_opened opened).1]
    exact ⟨_, rfl⟩
  | unusable opened | failed opened | ended opened =>
    rw [(lenient.lenient_of_opened opened).1, resolving_one one schedule]
    exact List.prefix_rfl

theorem tolerated_lenient (logins : LoginsRefused store) {report : Report}
    (lenient : Course store settings.lenient schedule w (.ok report) asked files) :
    ∃ (refused : Option String) (unresolved : Option (List String)) (unwritten : Option FileError),
      report.tolerated = ((refused.map Failure.authentication).toList ++
        (unresolved.map Failure.partialResolution).toList ++
        (unwritten.map (Failure.outputUnwritable settings.outputFile)).toList).map Failure.message := by
  cases lenient with
  | @ended t r opened resolved passed =>
    obtain ⟨refused, unresolved, unwritten, kinds⟩ := setbacks_kinds logins settings t r w
    exact ⟨refused, unresolved, unwritten, congrArg (List.map Failure.message) kinds⟩

theorem lenient_fails_iff (lenient : Course store settings.lenient schedule w result asked files) :
    (∃ cause, result = .error cause) ↔
      (∃ cause, w.files.read settings.inputFile = .error cause) ∨
        ∃ template, w.files.read settings.inputFile = .ok template ∧
          ∃ p ∈ Placeholder.find template, ∃ fault, Reference.parse p = .error fault := by
  cases holds : w.files.read settings.inputFile with
  | error cause =>
    obtain ⟨cause', closed⟩ : ∃ cause', Template.openFile w.files settings.inputFile = .error cause' := by
      rw [Template.openFile, holds]
      by_cases missing : cause = .notFound
      · exact ⟨_, if_pos missing⟩
      · exact ⟨_, if_neg missing⟩
    exact ⟨fun _ => .inl ⟨cause, rfl⟩, fun _ => ⟨cause', (lenient.lenient_of_closed closed).1⟩⟩
  | ok template =>
    obtain ⟨-, outcome⟩ := lenient.lenient_of_opened (openFile_of_read holds)
    cases resolved : (resolving store settings schedule ⟨settings.inputFile, template⟩ w).1 with
    | error cause =>
      rw [resolved] at outcome
      obtain ⟨p, member, fault, malformed, -⟩ :=
        Batch.ofPlaceholders_eq_error ((Resolution.resolve_eq_error_iff ..).mp resolved)
      exact ⟨fun _ => .inr ⟨template, rfl, p, member, fault, malformed⟩, fun _ => ⟨cause, outcome⟩⟩
    | ok r =>
      rw [resolved] at outcome
      obtain ⟨batch, read⟩ := Resolution.ofPlaceholders_of_resolve _ _ _ _ resolved
      have readable := Batch.readable_of_ofPlaceholders read
      constructor
      · rintro ⟨cause, failed⟩
        cases failed.symm.trans outcome.1
      · rintro (⟨cause, missing⟩ | ⟨_, same, p, member, fault, malformed⟩)
        · cases missing
        · cases same
          obtain ⟨r, parsed⟩ := readable p member
          cases malformed.symm.trans parsed

end Course

end Run

/-- Strict and lenient runs agree on a world that they both start from, one fetch at a time. -/
theorem run_strict_lenient {store : Store σ} (logins : Run.LoginsRefused store) {settings : Settings}
    (one : settings.connection.concurrency = 1) (schedule schedule' : List Nat) (w : World σ) :
    let strict := run store settings.strict schedule w
    let lenient := run store settings.lenient schedule' w
    (∀ report, strict.1 = .ok report →
      lenient.1 = .ok report ∧ report.tolerated = [] ∧ lenient.2.files = strict.2.files ∧
        lenient.2.session.calls = strict.2.session.calls) ∧
    (∀ cause, strict.1 = .error cause → cause.Fatal → lenient.1 = .error cause) ∧
    (∀ cause, strict.1 = .error cause → ¬ cause.Fatal →
      ((∃ text, cause = .authentication text) ∧ ∃ p fault, lenient.1 = .error (.unusablePlaceholder p fault)) ∨
        ∃ report, lenient.1 = .ok report ∧ report.tolerated.head? = some cause.message) ∧
    (∀ report, lenient.1 = .ok report →
      ∃ (refused : Option String) (unresolved : Option (List String)) (unwritten : Option FileError),
        report.tolerated = ((refused.map Failure.authentication).toList ++
          (unresolved.map Failure.partialResolution).toList ++
          (unwritten.map (Failure.outputUnwritable settings.outputFile)).toList).map Failure.message) ∧
    ((∃ cause, lenient.1 = .error cause) ↔
      (∃ cause, w.files.read settings.inputFile = .error cause) ∨
        ∃ template, w.files.read settings.inputFile = .ok template ∧
          ∃ p ∈ Placeholder.find template, ∃ fault, Reference.parse p = .error fault) ∧
    strict.2.session.calls <+: lenient.2.session.calls := by
  obtain ⟨asked, calls, course⟩ := Run.course_run store settings.strict schedule w
  obtain ⟨asked', calls', course'⟩ := Run.course_run store settings.lenient schedule' w
  refine ⟨?_, ?_, ?_, ?_, course'.lenient_fails_iff, ?_⟩
  · intro report ended
    rw [ended] at course
    obtain ⟨same, none, files, asks⟩ := Run.Course.lenient_of_ok one course course'
    exact ⟨same, none, files, by rw [calls, calls', asks]⟩
  · intro cause failed
    rw [failed] at course
    exact (Run.Course.lenient_of_error logins one course course').1
  · intro cause failed
    rw [failed] at course
    exact (Run.Course.lenient_of_error logins one course course').2
  · intro report ended
    rw [ended] at course'
    exact course'.tolerated_lenient logins
  · rw [calls, calls']
    exact (List.prefix_append_right_inj _).mpr (course.prefix_lenient one course')

def closedStore : Store Unit where
  name := "closed"
  authenticate _ _ := ⟨.error (.authentication "no"), [], ()⟩
  mountVersion _ _ := ⟨.ok none, [], ()⟩
  read _ _ := ⟨.error (.status 403 ["denied"]), [], ()⟩

theorem run_strict_lenient_refused :
    let settings : Settings := { inputFile := "t", outputFile := "t/x", connection := { concurrency := 1 } }
    let w : World Unit := ⟨{ nodes := [(["t"], .file (Text.Utf8.encode "{{ s!k:v }}"))] }, ⟨(), []⟩⟩
    let strict := run closedStore settings.strict [] w
    let lenient := run closedStore settings.lenient [] w
    strict.1 = .error (.authentication "no") ∧
      (∃ report, lenient.1 = .ok report ∧
        report.tolerated.head? = some "failed authenticating with Vault: no" ∧ report.tolerated.length = 3) ∧
      strict.2.session.calls <+: lenient.2.session.calls := by
  intro settings w strict lenient
  have logins : Run.LoginsRefused closedStore := fun role state cause refused => by
    cases refused
    exact ⟨"no", rfl⟩
  obtain ⟨-, -, first, -, -, calls⟩ :=
    run_strict_lenient logins (show settings.connection.concurrency = 1 from rfl) [] [] w
  have failed : strict.1 = .error (.authentication "no") := by decide +kernel
  have three : lenient.1.toOption.map (·.tolerated.length) = some 3 := by decide +kernel
  refine ⟨failed, ?_, calls⟩
  rcases first _ failed (by rintro ⟨⟩) with ⟨-, p, fault, wrong⟩ | ⟨report, ended, head⟩
  · rw [wrong] at three
    cases three
  · rw [ended] at three
    exact ⟨report, ended, head, Option.some.inj three⟩

end SecretTemplate
