import SecretTemplate.Proofs.Run.Course

namespace SecretTemplate

open Placeholder (render)

variable {σ : Type}

namespace Run

variable {settings : Settings} {t : Template} {r : Resolution} {fs : Files}

theorem write_of_writing {files : Files} (wrote : writing settings t r fs = .ok files) :
    fs.write settings.outputFile (render t.contents r.batch).value.text = .ok files := by
  unfold writing at wrote
  cases outcome : fs.write settings.outputFile (render t.contents r.batch).value.text with
  | error cause => simp [outcome] at wrote
  | ok written => simpa [outcome] using wrote

end Run

/-- A run that fails leaves all files as they were, and so does one that tolerates a failure to write. Otherwise the
    output file holds the rendered template, as it was read before the run, and every other file is as it was. -/
theorem run_touches_one_file (store : Store σ) (settings : Settings) (schedule : List Nat) (w : World σ) :
    let after := (run store settings schedule w).2.files
    match (run store settings schedule w).1 with
    | .error _ => after = w.files
    | .ok report =>
      ∃ template r, w.files.read settings.inputFile = .ok template ∧
        let t : Template := ⟨settings.inputFile, template⟩
        (Run.resolving store settings schedule t w).1 = .ok r ∧
        report.tolerated = (Run.setbacks store settings t r w).map Failure.message ∧
        match Run.writing settings t r w.files with
        | .error cause => (Run.setbacks store settings t r w).getLast? = some cause ∧ after = w.files
        | .ok _ => w.files.DifferAt after settings.outputFile (render template r.batch).value.text := by
  obtain ⟨asked, -, course⟩ := Run.course_run store settings schedule w
  dsimp only
  generalize (run store settings schedule w).1 = result at course
  generalize (run store settings schedule w).2.files = after at course
  cases course with
  | unopened | rejected | unusable | failed => rfl
  | @ended t r opened resolved passed =>
    obtain ⟨template, holds, rfl⟩ := Run.openFile_eq_ok_iff.mp opened
    refine ⟨template, r, holds, resolved, rfl, ?_⟩
    cases wrote : Run.writing settings ⟨settings.inputFile, template⟩ r w.files with
    | error cause =>
      refine ⟨?_, rfl⟩
      simp [Run.setbacks, wrote]
    | ok files => exact Files.differAt_of_write (Run.write_of_writing wrote)

end SecretTemplate
