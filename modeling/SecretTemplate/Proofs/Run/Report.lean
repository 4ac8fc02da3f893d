import SecretTemplate.Proofs.Resolution.Results
import SecretTemplate.Proofs.Run.Calls
import SecretTemplate.Proofs.Run.Output

namespace SecretTemplate.Run

open Text.Utf8 (Bytes encode)
open Placeholder (Cut filledWith find render replacement unfilled mem_unfilled)
open Resolution (Happening Orderly Progress Result Reflects results finalValue)

/-- What stands in the output for a placeholder: its value, or the placeholder itself where that is empty. -/
def finalText (results : List (String × Result)) (p : String) : String :=
  if finalValue results p = "" then p else finalValue results p

/-- What is reported of a run over `template` in which the fetches came to `results`. -/
structure Exact (settings : Settings) (template : Bytes) (results : List (String × Result)) (before after : Files)
    (report : Report) : Prop where
  placeholders : report.placeholders = (find template).length
  distinct : report.distinct = (find template).dedup.length
  few : report.distinct ≤ report.placeholders
  each : (results.map (·.1)).Perm (find template).dedup
  resolved : report.resolved = results.countP fun e => Result.isText e.2
  sum : report.resolved + (results.countP fun e => Result.isFailure e.2) +
    (results.countP fun e => Result.isBlank e.2) = report.distinct
  room : report.unrendered.length + report.resolved ≤ report.distinct
  /-- What was left in the output is what is listed, each placeholder once and in order. -/
  written : ∀ first parts, Cut template first parts → ∀ files,
    before.write settings.outputFile (filledWith (finalText results) first parts) = .ok files →
      after = files ∧ after.read settings.outputFile = .ok (filledWith (finalText results) first parts) ∧
      report.unrendered.Pairwise (· < ·) ∧
      ∀ p, p ∈ report.unrendered ↔ p ∈ find template ∧ finalValue results p = ""
  unwritten : ∀ first parts, Cut template first parts → ∀ cause,
    before.write settings.outputFile (filledWith (finalText results) first parts) = .error cause →
      after = before ∧ report.unrendered = [] ∧ settings.continueOnError = true
  strict : settings.continueOnError = false →
    report.tolerated = [] ∧ ∀ e ∈ results, Result.isFailure e.2 = false

variable {template : Bytes} {results : List (String × Result)} {r : Resolution}

theorem text_eq_filledWith {first : Bytes} {parts : List (String × Bytes)}
    (reflects : Reflects (find template) results r) (cut : Cut template first parts) :
    (render template r.batch).value.text = filledWith (finalText results) first parts := by
  refine cut.substitute_of_forall fun p listed => ?_
  have value := reflects.value p
  rw [if_pos listed, Option.map_eq_some_iff] at value
  obtain ⟨entry, known, same⟩ := value
  rw [replacement, known, finalText, ← same]

theorem mem_unfilled_iff (reflects : Reflects (find template) results r) (p : String) :
    p ∈ unfilled r.batch ↔ p ∈ find template ∧ finalValue results p = "" := by
  have value := reflects.value p
  rw [mem_unfilled]
  by_cases listed : p ∈ find template
  · rw [if_pos listed, Option.map_eq_some_iff] at value
    obtain ⟨entry, known, same⟩ := value
    simp [known, listed, same]
  · rw [if_neg listed, Option.map_eq_none_iff] at value
    simp [value, listed]

theorem length_unfilled (reflects : Reflects (find template) results r) :
    (unfilled r.batch).length + (results.countP fun e => Result.isText e.2) ≤ (find template).dedup.length := by
  let fetched := (results.filter fun e => Result.isText e.2).map (·.1)
  have counted : fetched.length = results.countP fun e => Result.isText e.2 := by
    rw [List.length_map, List.countP_eq_length_filter]
  have keys : (results.map (·.1)).Nodup := reflects.each.nodup_iff.mpr (List.nodup_dedup _)
  -- A fetched text is not empty, so its placeholder has a value and is not left in place.
  have apart : (unfilled r.batch ++ fetched).Nodup := by
    refine List.Nodup.append ?_ ?_ ?_
    · exact (Placeholder.unfilled_ascending r.batch).imp fun less => String.ne_of_lt less
    · exact keys.sublist (List.filter_sublist.map _)
    · intro p left taken
      obtain ⟨e, member, rfl⟩ := List.mem_map.mp taken
      obtain ⟨listed, isText⟩ := List.mem_filter.mp member
      exact reflects.fetched e listed isText ((mem_unfilled_iff reflects e.1).mp left).2
  have inside : unfilled r.batch ++ fetched ⊆ (find template).dedup := by
    intro p member
    rcases List.mem_append.mp member with left | taken
    · exact List.mem_dedup.mpr ((mem_unfilled_iff reflects p).mp left).1
    · obtain ⟨e, chosen, rfl⟩ := List.mem_map.mp taken
      exact reflects.each.mem_iff.mp (List.mem_map_of_mem (List.mem_filter.mp chosen).1)
  have short := (List.subperm_of_subset apart inside).length_le
  rw [List.length_append, counted] at short
  exact short

theorem Exact.of_reflects {σ : Type} {store : Store σ} {settings : Settings} {w : World σ}
    (reflects : Reflects (find template) results r)
    (passed : settings.continueOnError = true ∨ setbacks store settings ⟨settings.inputFile, template⟩ r w = []) :
    let written := writing settings ⟨settings.inputFile, template⟩ r w.files
    Exact settings template results w.files (written.toOption.getD w.files)
      (report ⟨settings.inputFile, template⟩ r written
        (setbacks store settings ⟨settings.inputFile, template⟩ r w)) := by
  have each : results.length = (find template).dedup.length := by
    rw [← reflects.each.length_eq, List.length_map]
  have total := Resolution.countP_results results
  have room := length_unfilled reflects
  refine {
    placeholders := rfl
    distinct := reflects.size
    few := reflects.size.trans_le (List.dedup_sublist _).length_le
    each := reflects.each
    resolved := reflects.resolved
    sum := ?sum
    room := ?room
    written := ?written
    unwritten := ?unwritten
    strict := ?strict }
  case sum =>
    rw [report, reflects.size, reflects.resolved]
    dsimp only
    omega
  case room =>
    rw [report, reflects.size, reflects.resolved]
    dsimp only
    split
    · exact room
    · simp only [List.length_nil]
      omega
  case written =>
    intro first parts cut files wrote
    rw [← text_eq_filledWith reflects cut] at wrote ⊢
    have done : writing settings ⟨settings.inputFile, template⟩ r w.files = .ok files := by
      rw [writing, wrote]
    rw [done]
    exact ⟨rfl, Files.read_of_write wrote, Placeholder.unfilled_ascending r.batch, mem_unfilled_iff reflects⟩
  case unwritten =>
    intro first parts cut cause refused
    rw [← text_eq_filledWith reflects cut] at refused
    have failed : writing settings ⟨settings.inputFile, template⟩ r w.files =
        .error (.outputUnwritable settings.outputFile cause) := by
      rw [writing, refused]
    rw [failed]
    -- A strict run that came to its end has written its output.
    refine ⟨rfl, rfl, passed.resolve_right fun clear => ?_⟩
    obtain ⟨-, -, files, wrote⟩ := setbacks_eq_nil_iff.mp clear
    cases refused.symm.trans wrote
  case strict =>
    intro strict
    have clear := passed.resolve_left (by rw [strict]; exact Bool.false_ne_true)
    rw [report, clear]
    exact ⟨rfl, reflects.failure (setbacks_eq_nil_iff.mp clear).2.1⟩

/-- Whatever the template is, whatever the store answers, and in whatever order the fetches take their steps, the
    report of a run that comes to its end is exact. -/
theorem run_report_exact {σ : Type} (store : Store σ) (settings : Settings) (schedule : List Nat) (w : World σ)
    {report : Report} (ended : (run store settings schedule w).1 = .ok report) :
    ∃ template batch whole, w.files.read settings.inputFile = .ok template ∧
      Batch.ofPlaceholders (find template) = .ok batch ∧ schedule <+: whole ∧
      let s : Session σ := ⟨(admission store settings w).next, []⟩
      let first :=
        Progress.first store settings.connection.concurrency batch (s.log (Batch.read (find template)).events)
      let told := first.history store whole
      let resolved := resolving store settings schedule ⟨settings.inputFile, template⟩ w
      let last := (run store settings schedule w).2
      last.session.calls = w.session.calls ++ .authenticate settings.connection.role :: told.filterMap Happening.call? ∧
      Orderly store batch told s.state resolved.2.state ∧
      Exact settings template (Resolution.results told) w.files last.files report := by
  obtain ⟨asked, calls, course⟩ := course_run store settings schedule w
  rw [ended] at course
  generalize (run store settings schedule w).2 = last at calls course ⊢
  obtain ⟨files, session⟩ := last
  dsimp only at calls course ⊢
  cases course with
  | @ended t r opened resolved passed =>
    obtain ⟨template, holds, rfl⟩ := openFile_eq_ok_iff.mp opened
    obtain ⟨batch, whole, read, longer, later, rfl, orderly⟩ := orderly_of_resolved resolved
    rw [later] at calls
    exact ⟨template, batch, whole, holds, read, longer, calls, orderly, .of_reflects (orderly.reflects read) passed⟩

def halfFilled : Store Unit :=
  .ofAnswers (fun _ => .ok none) fun path =>
    if path = "s" then .ok (some (.object [("k", .string "v"), ("e", .string "")])) else .ok none

theorem run_report_exact_halfFilled :
    let contents := encode "{{ s!k }} {{ s!e }} {{ s!e:d }} {{ n!k:d }} {{ s!e }} {{ n!k }}"
    let w : World Unit := ⟨{ nodes := [(["t"], .file contents)] }, ⟨(), []⟩⟩
    let settings : Settings := { inputFile := "t", outputFile := "o", continueOnError := true }
    ∃ report template batch whole, (run halfFilled settings [1, 0] w).1 = .ok report ∧
      (report.placeholders, report.distinct, report.resolved, report.unrendered) =
        (6, 5, 1, ["{{ n!k }}", "{{ s!e }}"]) ∧
      w.files.read settings.inputFile = .ok template ∧
      Batch.ofPlaceholders (find template) = .ok batch ∧ [1, 0] <+: whole ∧
      let s : Session Unit := ⟨(admission halfFilled settings w).next, []⟩
      let first := Progress.first halfFilled settings.connection.concurrency batch
        (s.log (Batch.read (find template)).events)
      let told := first.history halfFilled whole
      let resolved := resolving halfFilled settings [1, 0] ⟨settings.inputFile, template⟩ w
      let last := (run halfFilled settings [1, 0] w).2
      last.session.calls = w.session.calls ++ .authenticate settings.connection.role :: told.filterMap Happening.call? ∧
      Orderly halfFilled batch told s.state resolved.2.state ∧
      Exact settings template (Resolution.results told) w.files last.files report := by
  intro contents w settings
  have counts : (run halfFilled settings [1, 0] w).1.toOption.map
      (fun report => (report.placeholders, report.distinct, report.resolved, report.unrendered)) =
        some (6, 5, 1, ["{{ n!k }}", "{{ s!e }}"]) := by
    decide +kernel
  cases ended : (run halfFilled settings [1, 0] w).1 with
  | error cause =>
    rw [ended] at counts
    cases counts
  | ok report =>
    rw [ended] at counts
    obtain ⟨template, batch, whole, exact⟩ := run_report_exact halfFilled settings [1, 0] w ended
    exact ⟨report, template, batch, whole, rfl, Option.some.inj counts, exact⟩

end SecretTemplate.Run
