import SecretTemplate.Proofs.Resolution.Reads
import SecretTemplate.Proofs.Run.Course

namespace SecretTemplate.Run

open Resolution (Happening Orderly Progress)

variable {σ : Type}

/-- No secret is asked for: the login fails and that ends the run, or a placeholder is malformed. -/
def Halted (store : Store σ) (settings : Settings) (t : Template) (w : World σ) : Prop :=
  (settings.continueOnError = false ∧ (admission store settings w).answer ≠ .ok ()) ∨
    ∃ p ∈ t.placeholders, ∀ r, Reference.parse p ≠ .ok r

/-- The calls that follow the login. -/
structure Follows (store : Store σ) (settings : Settings) (schedule : List Nat) (t : Template) (w : World σ)
    (later : List Call) : Prop where
  loginOnce : ∀ role, .authenticate role ∉ later
  halted : Halted store settings t w → later = []
  fetched : ¬ Halted store settings t w → ∃ batch whole,
    Batch.ofPlaceholders t.placeholders = .ok batch ∧ schedule <+: whole ∧
      let s : Session σ := ⟨(admission store settings w).next, []⟩
      let first := Progress.first store settings.connection.concurrency batch (s.log (Batch.read t.placeholders).events)
      let told := first.history store whole
      let resolved := resolving store settings schedule t w
      later = told.filterMap Happening.call? ∧
      resolved.1 = .ok (Resolution.ofOutcomes batch (told.filterMap Happening.outcome?)) ∧
      Orderly store batch told s.state resolved.2.state ∧
      later.countP Call.isRead + told.countP (·.deed.isRefused) = t.placeholders.dedup.length

variable {store : Store σ} {settings : Settings} {schedule : List Nat} {w : World σ} {t : Template}

theorem follows_nil (halted : Halted store settings t w) : Follows store settings schedule t w [] where
  loginOnce := by simp
  halted _ := rfl
  fetched := fun goes => (goes halted).elim

theorem not_authenticate (e : Happening) (role : Option String) : e.call? ≠ some (.authenticate role) := by
  unfold Happening.call?
  split
  · simp
  · simp
  · simp

theorem calls_of_unread {cause : Failure} (unread : (resolving store settings schedule t w).1 = .error cause) :
    (resolving store settings schedule t w).2.calls = [] ∧ Halted store settings t w := by
  have read := (Resolution.resolve_eq_error_iff ..).mp unread
  constructor
  · exact Resolution.calls_of_unread store _ schedule read _
  · obtain ⟨p, member, fault, malformed, -⟩ := Batch.ofPlaceholders_eq_error read
    refine .inr ⟨p, member, fun r parsed => ?_⟩
    cases malformed.symm.trans parsed

theorem orderly_of_resolved {r : Resolution} (resolved : (resolving store settings schedule t w).1 = .ok r) :
    ∃ batch whole, Batch.ofPlaceholders t.placeholders = .ok batch ∧ schedule <+: whole ∧
      let s : Session σ := ⟨(admission store settings w).next, []⟩
      let first := Progress.first store settings.connection.concurrency batch (s.log (Batch.read t.placeholders).events)
      let told := first.history store whole
      (resolving store settings schedule t w).2.calls = told.filterMap Happening.call? ∧
      r = Resolution.ofOutcomes batch (told.filterMap Happening.outcome?) ∧
      Orderly store batch told s.state (resolving store settings schedule t w).2.state := by
  obtain ⟨batch, read⟩ := Resolution.ofPlaceholders_of_resolve _ _ _ _ resolved
  obtain ⟨whole, longer, calls, result, orderly⟩ := Resolution.resolve_orderly store settings.connection.concurrency
    schedule read ⟨(admission store settings w).next, []⟩
  exact ⟨batch, whole, read, longer, calls, Except.ok.inj (resolved.symm.trans result), orderly⟩

theorem follows_of_resolved {r : Resolution} (resolved : (resolving store settings schedule t w).1 = .ok r)
    (admitted : settings.continueOnError = true ∨ (admission store settings w).answer = .ok ()) :
    Follows store settings schedule t w (resolving store settings schedule t w).2.calls := by
  obtain ⟨batch, whole, read, longer, later, rfl, orderly⟩ := orderly_of_resolved resolved
  rw [later]
  constructor
  · intro role member
    obtain ⟨e, -, asked⟩ := List.mem_filterMap.mp member
    exact not_authenticate e role asked
  · rintro (⟨strict, refused⟩ | ⟨p, member, malformed⟩)
    · exact (refused (answer_of_strict strict admitted)).elim
    · obtain ⟨r, parsed⟩ := Batch.readable_of_ofPlaceholders read p member
      exact (malformed r parsed).elim
  · intro goes
    refine ⟨batch, whole, read, longer, rfl, resolved, orderly, ?_⟩
    rw [← Batch.size_ofPlaceholders read]
    exact orderly.reads

theorem admitted_of_clear {r : Resolution} (clear : setbacks store settings t r w = []) :
    (admission store settings w).answer = .ok () := by
  unfold setbacks at clear
  rw [List.append_eq_nil_iff, List.append_eq_nil_iff, Option.toList_eq_nil_iff] at clear
  exact failureOf_eq_none_iff.mp clear.1.1

theorem Course.unasked {result : Except Failure Report} {asked : List Call} {files : Files} {cause : Failure}
    (course : Course store settings schedule w result asked files)
    (closed : Template.openFile w.files settings.inputFile = .error cause) : asked = [] := by
  cases course with
  | unopened => rfl
  | rejected opened => cases opened.symm.trans closed
  | unusable opened => cases opened.symm.trans closed
  | failed opened => cases opened.symm.trans closed
  | ended opened => cases opened.symm.trans closed

theorem Course.follows {result : Except Failure Report} {asked : List Call} {files : Files}
    (course : Course store settings schedule w result asked files)
    (opened : Template.openFile w.files settings.inputFile = .ok t) :
    ∃ later, asked = .authenticate settings.connection.role :: later ∧ Follows store settings schedule t w later := by
  cases course with
  | unopened closed => cases opened.symm.trans closed
  | rejected opened' strict refused =>
    cases opened.symm.trans opened'
    refine ⟨[], rfl, follows_nil (.inl ⟨strict, fun admitted => ?_⟩)⟩
    cases refused.symm.trans admitted
  | unusable opened' passed unread =>
    cases opened.symm.trans opened'
    obtain ⟨none, halted⟩ := calls_of_unread unread
    exact ⟨_, rfl, none ▸ follows_nil halted⟩
  | failed opened' strict admitted resolved first =>
    cases opened.symm.trans opened'
    exact ⟨_, rfl, follows_of_resolved resolved (.inr admitted)⟩
  | ended opened' resolved passed =>
    cases opened.symm.trans opened'
    exact ⟨_, rfl, follows_of_resolved resolved (passed.imp id admitted_of_clear)⟩

/-- A run without a template asks nothing of its store. Any other run logs in once and before all else, and then asks
    for shapes and documents: not at all if it is halted, and otherwise once for each placeholder whose mount has a
    shape, after that shape was named. -/
theorem run_calls_in_order (store : Store σ) (settings : Settings) (schedule : List Nat) (w : World σ) :
    ∃ asked, (run store settings schedule w).2.session.calls = w.session.calls ++ asked ∧
      (∀ cause, Template.openFile w.files settings.inputFile = .error cause → asked = []) ∧
      ∀ t, Template.openFile w.files settings.inputFile = .ok t →
        ∃ later, asked = .authenticate settings.connection.role :: later ∧
          Follows store settings schedule t w later := by
  obtain ⟨asked, calls, course⟩ := course_run store settings schedule w
  exact ⟨asked, calls, fun _ closed => course.unasked closed, fun _ opened => course.follows opened⟩

end SecretTemplate.Run
