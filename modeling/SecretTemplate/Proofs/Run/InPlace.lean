import SecretTemplate.Proofs.Engine.FixedAnswers
import SecretTemplate.Proofs.Placeholder.Clearing
import SecretTemplate.Proofs.Run.Course

namespace SecretTemplate

namespace Run

open Text.Utf8 (Bytes)
open Placeholder (render)

variable {σ : Type}

def loggedIn (store : Store σ) (settings : Settings) (w : World σ) : World σ :=
  ({ w with session := (w.session.authenticate store settings.connection.role).2 } : World σ).log
    (tolerateNotices settings (failureOf (w.session.authenticate store settings.connection.role).1))

/-- What a run resolves the placeholders of its template to. -/
def resolution (store : Store σ) (settings : Settings) (schedule : List Nat) (t : Template) (w : World σ) :
    Except Failure Resolution :=
  (resolve store settings.connection.concurrency schedule t.placeholders
    (loggedIn store settings (w.log [foundNotice t])).session).1

variable {store : Store σ} {settings : Settings} {schedule : List Nat} {w : World σ} {t : Template}

theorem resolution_eq (store : Store σ) (settings : Settings) (schedule : List Nat) (t : Template) (w : World σ) :
    resolution store settings schedule t w = (resolving store settings schedule t w).1 := by
  have session : (loggedIn store settings (w.log [foundNotice t])).session =
      Session.after (loggedIn store settings (w.log [foundNotice t])).session.trace
        ⟨(admission store settings w).next, []⟩ := (Session.after_nil _).symm
  rw [resolution, session, Resolution.resolve_after, resolving]

/-- After a run in place that comes to its end the file holds the rendered template, and to write that again
    changes nothing, unless the file cannot be written and is as it was. -/
theorem files_of_run {template : Bytes} {report : Report} {after : World σ}
    (inPlace : settings.outputFile = settings.inputFile) (holds : w.files.read settings.inputFile = .ok template)
    (ended : run store settings schedule w = (.ok report, after)) :
    ∃ r, resolution store settings schedule ⟨settings.inputFile, template⟩ w = .ok r ∧
      (¬ w.files.Writable settings.inputFile ∧ after.files = w.files ∨
        after.files.read settings.inputFile = .ok (render template r.batch).value.text ∧
          after.files.write settings.inputFile (render template r.batch).value.text = .ok after.files) := by
  obtain ⟨asked, -, course⟩ := course_run store settings schedule w
  have opened := openFile_of_read holds
  rw [ended] at course
  dsimp only at course
  generalize after.files = files at course ⊢
  cases course with
  | @ended t r opened' resolved passed =>
    cases opened.symm.trans opened'
    refine ⟨r, (resolution_eq ..).trans resolved, ?_⟩
    rw [writing, inPlace]
    cases wrote : w.files.write settings.inputFile (render template r.batch).value.text with
    | error cause =>
      refine .inl ⟨fun writable => ?_, rfl⟩
      obtain ⟨files, wrote'⟩ := writable.write (render template r.batch).value.text
      cases wrote.symm.trans wrote'
    | ok files => exact .inr ⟨Files.read_of_write wrote, Files.write_write wrote wrote⟩

/-- A run leaves the files as they are, however it ends, if what it may write changes nothing. -/
theorem files_of_run_fixed {fs : Files} {text : Bytes} (s : Session σ)
    (holds : fs.read settings.inputFile = .ok text)
    (fixed : ∀ batch files, fs.write settings.outputFile (render text batch).value.text = .ok files → files = fs) :
    (run store settings schedule ⟨fs, s⟩).2.files = fs := by
  obtain ⟨asked, -, course⟩ := course_run store settings schedule ⟨fs, s⟩
  have opened := openFile_of_read holds
  generalize (run store settings schedule ⟨fs, s⟩).1 = result at course
  generalize (run store settings schedule ⟨fs, s⟩).2.files = files at course ⊢
  cases course with
  | unopened | rejected | unusable | failed => rfl
  | @ended t r opened' resolved passed =>
    cases opened.symm.trans opened'
    rw [writing]
    dsimp only
    cases wrote : fs.write settings.outputFile (render text r.batch).value.text with
    | error cause => rfl
    | ok files => exact fixed r.batch files wrote

end Run

namespace Placeholder

open Text.Utf8 (Bytes encode)

/-- Rendering with values that have no braces leaves no placeholder behind, unless braces of the template enclose
    placeholders of it. Then rendering again, with any batch, changes nothing, and neither does a run in place
    after one that rendered with these values. -/
theorem render_clears {template : Bytes} {batch : Batch} (resolves : Resolves batch template) :
    (find (render template batch).value.text = [] ↔ ¬ Encloses batch template) ∧
    (¬ Encloses batch template →
      (∀ other, (render (render template batch).value.text other).value.text = (render template batch).value.text) ∧
      ∀ {σ σ' : Type} (store : Store σ) (store' : Store σ') (settings settings' : Settings)
        (schedule schedule' : List Nat) (w after : World σ) (s : Session σ') (r : Resolution) (report : Report),
        settings.outputFile = settings.inputFile → settings'.inputFile = settings.inputFile →
        settings'.outputFile = settings.inputFile → w.files.read settings.inputFile = .ok template →
        Run.resolution store settings schedule ⟨settings.inputFile, template⟩ w = .ok r → r.batch = batch →
        run store settings schedule w = (.ok report, after) →
        (run store' settings' schedule' ⟨after.files, s⟩).2.files = after.files) := by
  have cleared := find_substitute_eq_nil_iff resolves
  refine ⟨cleared, fun apart => ?_⟩
  have still (other : Batch) :
      (render (render template batch).value.text other).value.text = (render template batch).value.text :=
    substitute_of_find_nil (cleared.mpr apart) other
  refine ⟨still, ?_⟩
  intro σ σ' store store' settings settings' schedule schedule' w after s r report inPlace input output holds
    resolved same ended
  obtain ⟨r', resolved', left⟩ := Run.files_of_run inPlace holds ended
  cases resolved.symm.trans resolved'
  subst same
  rw [← input] at left holds output
  rcases left with ⟨unwritable, untouched⟩ | ⟨readBack, fixed⟩
  · rw [untouched]
    refine Run.files_of_run_fixed s holds fun other files wrote => ?_
    rw [output] at wrote
    exact absurd ⟨_, files, wrote⟩ unwritable
  · refine Run.files_of_run_fixed s readBack fun other files wrote => ?_
    rw [still, output] at wrote
    cases fixed.symm.trans wrote
    rfl

def emptyStore : Store Unit := .ofAnswers (fun _ => .error .notFound) fun _ => .ok none

def tolerantInPlace : Settings := { inputFile := "t", outputFile := "t", continueOnError := true }

def holding (template : Bytes) : World Unit := ⟨{ nodes := [(["t"], .file template)] }, ⟨(), []⟩⟩

def plainBatch : Batch where
  entries := [("{{ s!k:v }}", ⟨"s", "k", "v", "v"⟩)]
  ascending := by decide +kernel

theorem render_clears_plain :
    Resolves plainBatch (encode "a={{ s!k:v }}") ∧
      find (render (encode "a={{ s!k:v }}") plainBatch).value.text = [] ∧
      (∀ other, (render (render (encode "a={{ s!k:v }}") plainBatch).value.text other).value.text = encode "a=v") ∧
      let once := (run emptyStore tolerantInPlace [] (holding (encode "a={{ s!k:v }}"))).2
      (run emptyStore tolerantInPlace [] once).2.files = once.files := by
  have resolves : Resolves plainBatch (encode "a={{ s!k:v }}") := by
    intro p member
    rw [show find (encode "a={{ s!k:v }}") = ["{{ s!k:v }}"] by decide +kernel] at member
    cases List.mem_singleton.mp member
    exact ⟨_, rfl, by decide +kernel⟩
  have clear : find (render (encode "a={{ s!k:v }}") plainBatch).value.text = [] := by decide +kernel
  obtain ⟨cleared, still⟩ := render_clears resolves
  obtain ⟨same, again⟩ := still (cleared.mp clear)
  refine ⟨resolves, clear, fun other => ?_, ?_⟩
  · rw [same other]
    decide +kernel
  · intro once
    exact again emptyStore emptyStore tolerantInPlace tolerantInPlace [] [] (holding (encode "a={{ s!k:v }}")) once
      once.session _ _ rfl rfl rfl rfl rfl rfl rfl

def nestedBatch : Batch where
  entries := [("{{ x!y:z }}", ⟨"x", "y", "z", "z"⟩), ("{{a!b:x!y:z}}", ⟨"a", "b", "x!y:z", "x!y:z"⟩)]
  ascending := by decide +kernel

/-- Braces around a placeholder can make a placeholder of its value: it is found in the output, it is replaced when
    the output is rendered again, and a second run in place changes the file. -/
theorem render_nested :
    let template := encode "{{ {{a!b:x!y:z}} }} {{ x!y:z }}"
    let once := run emptyStore tolerantInPlace [] (holding template)
    let twice := run emptyStore tolerantInPlace [] once.2
    Batch.ofPlaceholders (find template) = .ok nestedBatch ∧ (∀ e ∈ nestedBatch.entries, Solid e.2.value) ∧
      find (render template nestedBatch).value.text = ["{{ x!y:z }}"] ∧
      (render template nestedBatch).value.text = encode "{{ x!y:z }} z" ∧
      (render (encode "{{ x!y:z }} z") nestedBatch).value.text = encode "z z" ∧
      once.1.toOption.map (·.unrendered) = some [] ∧
      once.2.files.nodes = [(["t"], .file (encode "{{ x!y:z }} z"))] ∧
      twice.2.files.nodes = [(["t"], .file (encode "z z"))] := by
  refine ⟨rfl, ?_, ?_, ?_, ?_, ?_, ?_, ?_⟩
  all_goals decide +kernel

end Placeholder

end SecretTemplate
