import SecretTemplate.Proofs.Placeholder.Rendering
import SecretTemplate.Proofs.Resolution.Accounting
import SecretTemplate.Proofs.Resolution.Independence
import SecretTemplate.Proofs.Resolution.Sequential
import SecretTemplate.Proofs.Run.OneFile

namespace SecretTemplate

open Text.Utf8 (Bytes encode)
open Placeholder (Cut filledWith find render replacement)

variable {σ : Type} {versions : String → Except StoreError (Option String)}
  {documents : String → Except StoreError (Option Json)}

namespace Resolution

theorem about_own {store : Store σ} (fixed : store.Fixed versions documents)
    (uniform : ∀ p q, Engine.mount p = Engine.mount q → versions p = versions q) {placeholders : List String}
    (readable : ∀ p ∈ placeholders, ∃ r, Reference.parse p = .ok r) (limit : Nat) (schedule : List Nat)
    (s : Session σ) :
    ∃ resolution, (resolve store limit schedule placeholders s).1 = .ok resolution ∧
      (∀ p ∈ placeholders, ∀ r, Reference.parse p = .ok r →
        resolution.about p = seen r (ownOutcome versions documents r)) ∧
      ∀ p, p ∉ placeholders → resolution.failures.get? p = none := by
  obtain ⟨batch, read⟩ := Batch.ofPlaceholders_of_readable readable
  obtain ⟨s', resolved⟩ := resolve_of_readable store limit schedule read s
  obtain ⟨ends, whole, related⟩ := resolveBatch_fixed fixed limit schedule batch s'
  refine ⟨_, resolved, ?_, ?_⟩
  · intro p member r parsed
    have known := (Batch.get?_ofPlaceholders read p r).mpr ⟨member, parsed⟩
    obtain ⟨outcome, ended, result, found, rfl⟩ := related.lookup known
    rw [whole, about_settled known ended, found.eq_own uniform, ownOutcome]
  · intro p absent
    have unknown : batch.get? p = none := by
      rw [Option.eq_none_iff_forall_ne_some]
      intro r found
      exact absent ((Batch.get?_ofPlaceholders read p r).mp found).1
    rw [whole, failure_settled, unknown]
    rfl

theorem nonempty_of_ownOutcome {r : Reference} {text : String}
    (ended : ownOutcome versions documents r = .ok (some text)) : text ≠ "" := by
  unfold ownOutcome outcomeUnder at ended
  split at ended
  · cases ended
  · rename_i shape _
    unfold outcome at ended
    cases found : fieldText shape r (documents (shape.readPath r.storePath)) with
    | error cause =>
      rw [found] at ended
      cases ended
    | ok value =>
      rw [found] at ended
      rintro rfl
      simp only [Except.map, Except.ok.injEq, Option.ite_none_left_eq_some, Option.some.injEq] at ended
      obtain ⟨nonempty, rfl⟩ := ended
      exact nonempty rfl

end Resolution

/-- The text that stands in the output for a placeholder: what its fetch yields on its own, its fallback if that is
    empty or fails, and the placeholder itself if the fallback is empty as well. -/
def shown (store : Store σ) (s : Session σ) (placeholder : String) : String :=
  match Reference.parse placeholder with
  | .error _ => placeholder
  | .ok r =>
    match (Resolution.fetchAlone store r s).1 with
    | .ok (some text) => text
    | .ok none | .error _ => if r.fallback = "" then placeholder else r.fallback

theorem replacement_eq_shown {store : Store σ} (fixed : store.Fixed versions documents) (s : Session σ)
    {resolution : Resolution} {p : String} {r : Reference} (parsed : Reference.parse p = .ok r)
    (about : resolution.about p = Resolution.seen r (Resolution.ownOutcome versions documents r)) :
    replacement resolution.batch p = shown store s p := by
  obtain ⟨entry, known, value⟩ := Option.map_eq_some_iff.mp (congrArg Prod.fst about)
  rw [replacement, known, shown, parsed]
  dsimp only
  rw [value, Resolution.fetchAlone_fixed fixed]
  cases ended : Resolution.ownOutcome versions documents r with
  | error cause =>
    show (if r.value = "" then p else r.value) = _
    rw [Batch.value_parse parsed]
  | ok fetched =>
    cases fetched with
    | none =>
      show (if r.value = "" then p else r.value) = _
      rw [Batch.value_parse parsed]
    | some text => exact if_neg (Resolution.nonempty_of_ownOutcome ended)

/-- The fetch of a placeholder succeeds on its own, perhaps with an empty text. -/
def Fetches (store : Store σ) (s : Session σ) (placeholder : String) : Prop :=
  ∃ r found, Reference.parse placeholder = .ok r ∧ (Resolution.fetchAlone store r s).1 = .ok found

theorem fetches_iff {store : Store σ} (fixed : store.Fixed versions documents) {s : Session σ} {p : String}
    {r : Reference} (parsed : Reference.parse p = .ok r) :
    Fetches store s p ↔ Resolution.cause? (Resolution.ownOutcome versions documents r) = none := by
  unfold Fetches
  simp only [parsed, Except.ok.injEq, Resolution.fetchAlone_fixed fixed]
  cases ended : Resolution.ownOutcome versions documents r <;> simp [Resolution.cause?, ended]

theorem failure?_eq_none_iff_fetches {store : Store σ} (fixed : store.Fixed versions documents) (s : Session σ)
    {placeholders : List String} (readable : ∀ p ∈ placeholders, ∃ r, Reference.parse p = .ok r)
    {resolution : Resolution}
    (own : ∀ p ∈ placeholders, ∀ r, Reference.parse p = .ok r →
      resolution.about p = Resolution.seen r (Resolution.ownOutcome versions documents r))
    (others : ∀ p, p ∉ placeholders → resolution.failures.get? p = none) :
    resolution.failure? = none ↔ ∀ p ∈ placeholders, Fetches store s p := by
  have failure {p : String} (member : p ∈ placeholders) : resolution.failures.get? p = none ↔ Fetches store s p := by
    obtain ⟨r, parsed⟩ := readable p member
    have about : resolution.failures.get? p = Resolution.cause? (Resolution.ownOutcome versions documents r) :=
      congrArg Prod.snd (own p member r parsed)
    rw [fetches_iff fixed parsed, about]
  rw [Resolution.failure?_eq_none_iff]
  constructor
  · exact fun none p member => (failure member).mp (none p)
  · intro fetches p
    by_cases member : p ∈ placeholders
    · exact (failure member).mpr (fetches p member)
    · exact others p member

namespace Run

theorem setbacks_eq_nil_iff {store : Store σ} {settings : Settings} {t : Template} {r : Resolution} {w : World σ} :
    setbacks store settings t r w = [] ↔
      (admission store settings w).answer = .ok () ∧ r.failure? = none ∧
        ∃ files, w.files.write settings.outputFile (render t.contents r.batch).value.text = .ok files := by
  have wrote : failureOf (writing settings t r w.files) = none ↔
      ∃ files, w.files.write settings.outputFile (render t.contents r.batch).value.text = .ok files := by
    unfold writing
    cases w.files.write settings.outputFile (render t.contents r.batch).value.text <;> simp
  rw [← wrote, ← failureOf_eq_none_iff, setbacks]
  simp

theorem read_output {store : Store σ} {settings : Settings} {schedule : List Nat} {w : World σ} {template : Bytes}
    {r : Resolution} {report : Report} {asked : List Call} {files : Files}
    (holds : w.files.read settings.inputFile = .ok template)
    (resolved : (resolving store settings schedule ⟨settings.inputFile, template⟩ w).1 = .ok r)
    (allowed : settings.continueOnError = false ∨ w.files.Writable settings.outputFile)
    (course : Course store settings schedule w (.ok report) asked files) :
    files.read settings.outputFile = .ok (render template r.batch).value.text := by
  cases course with
  | @ended t r' opened resolved' passed =>
    cases (openFile_of_read holds).symm.trans opened
    cases resolved.symm.trans resolved'
    have wrote : ∃ files, w.files.write settings.outputFile (render template r.batch).value.text = .ok files := by
      rcases allowed with strict | writable
      · have none := passed.resolve_left (by rw [strict]; exact Bool.false_ne_true)
        exact (setbacks_eq_nil_iff.mp none).2.2
      · exact writable.write _
    obtain ⟨files, wrote⟩ := wrote
    rw [writing, wrote]
    exact Files.read_of_write wrote

theorem ends_iff {store : Store σ} {settings : Settings} {schedule : List Nat} {w : World σ} {template : Bytes}
    {r : Resolution} {result : Except Failure Report} {asked : List Call} {files : Files}
    (holds : w.files.read settings.inputFile = .ok template)
    (resolved : (resolving store settings schedule ⟨settings.inputFile, template⟩ w).1 = .ok r)
    (strict : settings.continueOnError = false)
    (course : Course store settings schedule w result asked files) :
    (∃ report, result = .ok report) ↔ setbacks store settings ⟨settings.inputFile, template⟩ r w = [] := by
  have opened := openFile_of_read holds
  cases course with
  | unopened closed => cases opened.symm.trans closed
  | @rejected t cause _ _ refused =>
    rw [setbacks_eq_nil_iff, refused]
    simp
  | @unusable t _ opened' _ unread =>
    cases opened.symm.trans opened'
    cases resolved.symm.trans unread
  | @failed t r' cause opened' _ _ resolved' first =>
    cases opened.symm.trans opened'
    cases resolved.symm.trans resolved'
    rw [List.head?_eq_some_iff] at first
    obtain ⟨rest, some⟩ := first
    simp [some]
  | @ended t r' opened' resolved' passed =>
    cases opened.symm.trans opened'
    cases resolved.symm.trans resolved'
    have none := passed.resolve_left (by rw [strict]; exact Bool.false_ne_true)
    exact ⟨fun _ => none, fun _ => ⟨_, rfl⟩⟩

end Run

/-- The output is the template with every placeholder replaced by its own text. A strict run that can write its
    output comes to its end exactly when the login and every single fetch succeed. -/
theorem run_output {store : Store σ} (fixed : store.Fixed versions documents)
    (uniform : ∀ p q, Engine.mount p = Engine.mount q → versions p = versions q) (settings : Settings)
    (schedule : List Nat) (w : World σ) (s : Session σ) {template first : Bytes} {parts : List (String × Bytes)}
    (holds : w.files.read settings.inputFile = .ok template) (cut : Cut template first parts)
    (readable : ∀ p ∈ find template, ∃ r, Reference.parse p = .ok r) :
    let result := run store settings schedule w
    (∀ report, result.1 = .ok report → settings.continueOnError = false ∨ w.files.Writable settings.outputFile →
      result.2.files.read settings.outputFile =
        .ok (first ++ parts.flatMap fun e => encode (shown store s e.1) ++ e.2)) ∧
    (settings.continueOnError = false → w.files.Writable settings.outputFile →
      ((∃ report, result.1 = .ok report) ↔
        (store.authenticate settings.connection.role w.session.state).answer = .ok () ∧
          ∀ p ∈ find template, Fetches store s p)) := by
  obtain ⟨asked, -, course⟩ := Run.course_run store settings schedule w
  obtain ⟨r, resolved, own, others⟩ := Resolution.about_own fixed uniform readable settings.connection.concurrency
    schedule ⟨(Run.admission store settings w).next, []⟩
  intro result
  refine ⟨fun report ended allowed => ?_, fun strict writable => ?_⟩
  · rw [show (run store settings schedule w).1 = _ from ended] at course
    have text : (render template r.batch).value.text = filledWith (shown store s) first parts := by
      refine cut.substitute_of_forall fun p listed => ?_
      obtain ⟨reference, parsed⟩ := readable p listed
      exact replacement_eq_shown fixed s parsed (own p listed _ parsed)
    exact (Run.read_output holds resolved allowed course).trans (congrArg Except.ok text)
  · rw [Run.ends_iff holds resolved strict course, Run.setbacks_eq_nil_iff,
      failure?_eq_none_iff_fetches fixed s readable own others]
    exact ⟨fun ⟨admitted, fetches, _⟩ => ⟨admitted, fetches⟩, fun ⟨admitted, fetches⟩ =>
      ⟨admitted, fetches, writable.write _⟩⟩

def oneDocument : Store Unit :=
  .ofAnswers (fun _ => .ok none) fun path =>
    if path = "s" then .ok (some (.object [("k", .string "v")])) else .ok none

theorem run_output_in_place :
    let w : World Unit := ⟨{ nodes := [(["t"], .file (encode "a={{ s!k:d }} b={{ n!k:d }}"))] }, ⟨(), []⟩⟩
    let settings : Settings := { inputFile := "t", outputFile := "t" }
    (run oneDocument { settings with continueOnError := true } [] w).2.files.read "t" = .ok (encode "a=v b=d") ∧
      ¬ ∃ report, (run oneDocument settings [] w).1 = .ok report := by
  intro w settings
  have fixed : oneDocument.Fixed _ _ := Store.ofAnswers_fixed _ _
  have cut : Cut (encode "a={{ s!k:d }} b={{ n!k:d }}") (encode "a=")
      [("{{ s!k:d }}", encode " b="), ("{{ n!k:d }}", [])] := ⟨by decide +kernel, by decide +kernel⟩
  have holds : w.files.read "t" = .ok (encode "a={{ s!k:d }} b={{ n!k:d }}") := by decide +kernel
  have writable : w.files.Writable "t" := by decide +kernel
  have readable : ∀ p ∈ find (encode "a={{ s!k:d }} b={{ n!k:d }}"), ∃ r, Reference.parse p = .ok r := by
    intro p member
    rw [cut.2] at member
    simp only [List.map_cons, List.map_nil, List.mem_cons, List.not_mem_nil, or_false] at member
    rcases member with rfl | rfl
    · exact ⟨_, rfl⟩
    · exact ⟨_, rfl⟩
  refine ⟨?_, fun ended => ?_⟩
  · have ends : (run oneDocument { settings with continueOnError := true } [] w).1.toOption.isSome = true := by
      decide +kernel
    obtain ⟨output, -⟩ := run_output fixed (fun _ _ _ => rfl) { settings with continueOnError := true } [] w w.session
      holds cut readable
    cases ended : (run oneDocument { settings with continueOnError := true } [] w).1 with
    | error cause =>
      rw [ended] at ends
      cases ends
    | ok report =>
      rw [output report ended (.inr writable)]
      decide +kernel
  · obtain ⟨-, strict⟩ := run_output fixed (fun _ _ _ => rfl) settings [] w w.session holds cut readable
    obtain ⟨-, fetches⟩ := (strict rfl writable).mp ended
    obtain ⟨r, found, parsed, fetched⟩ := fetches "{{ n!k:d }}" (by decide +kernel)
    cases parsed
    cases fetched

end SecretTemplate
