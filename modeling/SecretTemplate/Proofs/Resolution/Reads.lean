import Mathlib.Data.List.Dedup
import SecretTemplate.Proofs.Batch.Reading
import SecretTemplate.Proofs.Resolution.History

namespace SecretTemplate

def Call.isRead : Call → Bool
  | .read _ => true
  | _ => false

theorem Batch.size_of_keys {placeholders : List String} {batch : Batch}
    (keys : ∀ p, p ∈ batch.keys ↔ p ∈ placeholders) :
    batch.size = placeholders.dedup.length := by
  have perm : batch.keys.Perm placeholders.dedup := by
    refine (List.perm_ext_iff_of_nodup batch.ascending.nodup_keys placeholders.nodup_dedup).mpr fun p => ?_
    rw [List.mem_dedup]
    exact keys p
  exact (List.length_map _).symm.trans perm.length_eq

theorem Batch.size_ofPlaceholders {placeholders : List String} {batch : Batch}
    (read : ofPlaceholders placeholders = .ok batch) : batch.size = placeholders.dedup.length :=
  size_of_keys (mem_keys_ofPlaceholders read)

namespace Resolution

open Engine (Shape Lookup Lookups clean classify cellOf)

/-- Every read comes after the query that named its shape, for a path under the same mount. -/
def Determined (told : List Happening) : Prop :=
  ∀ before e after, told = before ++ e :: after → ∀ shape answer, e.deed = .read shape answer →
    ∃ earlier ∈ before, earlier.deed = .looked (.found shape) ∧
      cellOf earlier.reference.storePath = cellOf e.reference.storePath

/-- What a fetch of a reference does from its start to its end. -/
inductive Passed (r : Reference) : List Deed → Prop
  | refused {answer : Except StoreError (Option String)} {cause : Failure}
      (classified : classify (clean r.storePath) answer = .error cause) :
      Passed r [.began, .looked (.asked answer), .looked (.failed cause), .refused cause]
  | asked {answer : Except StoreError (Option String)} {shape : Shape}
      (classified : classify (clean r.storePath) answer = .ok shape) (document : Except StoreError (Option Json)) :
      Passed r [.began, .looked (.asked answer), .looked (.found shape), .read shape document,
        .finished (outcome shape r document)]
  | shared (shape : Shape) (document : Except StoreError (Option Json)) :
      Passed r [.began, .looked (.reused shape), .read shape document, .finished (outcome shape r document)]

/-- The fetches of a batch from their start to their end. -/
structure Orderly {σ : Type} (store : Store σ) (batch : Batch) (told : List Happening) (start finish : σ) : Prop where
  known : ∀ e ∈ told, batch.get? e.placeholder = some e.reference
  passed : ∀ p r, batch.get? p = some r → Passed r ((told.filter (·.placeholder = p)).map (·.deed))
  once : ∀ p, (told.filter (·.placeholder = p)).countP (·.deed.isRead) ≤ 1
  determined : Determined told
  reads : (told.filterMap Happening.call?).countP Call.isRead + told.countP (·.deed.isRefused) = batch.size
  replies : Replies store start told finish

theorem Passed.reads_once {r : Reference} {deeds : List Deed} (passed : Passed r deeds) :
    deeds.countP Deed.isRead ≤ 1 := by
  cases passed with
  | refused => exact Nat.zero_le 1
  | asked => exact Nat.le_refl 1
  | shared => exact Nat.le_refl 1

theorem Orderly.own {σ : Type} {store : Store σ} {batch : Batch} {told : List Happening} {start finish : σ}
    {p : String} {r : Reference} (orderly : Orderly store batch told start finish) (known : batch.get? p = some r) :
    ∀ e ∈ told, e.placeholder = p → e.reference = r := by
  intro e member same
  have entry := orderly.known e member
  rw [same, known] at entry
  exact (Option.some.inj entry).symm

theorem filterMap_deeds {α : Type} {told : List Happening} {p : String} {r : Reference} (f : Happening → Option α)
    (unnumbered : ∀ i deed, f ⟨i, p, r, deed⟩ = f ⟨0, p, r, deed⟩)
    (own : ∀ e ∈ told, e.placeholder = p → e.reference = r) :
    (told.filter (·.placeholder = p)).filterMap f =
      ((told.filter (·.placeholder = p)).map (·.deed)).filterMap fun deed => f ⟨0, p, r, deed⟩ := by
  rw [List.filterMap_map]
  apply List.filterMap_congr
  intro e member
  obtain ⟨listed, same⟩ := List.mem_filter.mp member
  have placeholder := of_decide_eq_true same
  have reference := own e listed placeholder
  obtain ⟨i, q, r', deed⟩ := e
  cases placeholder
  cases reference
  exact unnumbered i deed

theorem countP_calls (told : List Happening) :
    (told.filterMap Happening.call?).countP Call.isRead = told.countP (·.deed.isRead) := by
  rw [List.countP_filterMap]
  apply List.countP_congr
  intro e member
  unfold Happening.call?
  cases e.deed with
  | looked deed => cases deed <;> simp [Deed.isRead, Call.isRead]
  | _ => simp [Deed.isRead, Call.isRead]

theorem Determined.append {told : List Happening} {e : Happening} (determined : Determined told)
    (last : ∀ shape answer, e.deed = .read shape answer → ∃ earlier ∈ told, earlier.deed = .looked (.found shape) ∧
      cellOf earlier.reference.storePath = cellOf e.reference.storePath) : Determined (told ++ [e]) := by
  intro before e' after whole shape answer read
  rcases split_concat whole with ⟨rfl, rfl, -⟩ | ⟨later, -, front⟩
  · exact last shape answer read
  · exact determined before e' later front shape answer read

def deedsOf (i : Nat) (told : List Happening) : List Deed := (told.filter (·.fetch = i)).map (·.deed)

theorem deedsOf_append_self {i : Nat} (told : List Happening) {e : Happening} (same : e.fetch = i) :
    deedsOf i (told ++ [e]) = deedsOf i told ++ [e.deed] := by
  simp [deedsOf, same]

theorem deedsOf_append_ne {i : Nat} (told : List Happening) {e : Happening} (other : e.fetch ≠ i) :
    deedsOf i (told ++ [e]) = deedsOf i told := by
  simp [deedsOf, other]

theorem mem_deedsOf {i : Nat} {told : List Happening} {deed : Deed} :
    deed ∈ deedsOf i told ↔ ∃ e ∈ told, e.fetch = i ∧ e.deed = deed := by
  simp [deedsOf, and_assoc]

def Stage.isUndecided : Stage → Bool
  | .queued => true
  | .classifying => true
  | .reading _ _ => false
  | .finished _ => false

theorem Fetch.undecided_of_finished {f : Fetch} (finished : f.isFinished = true) : f.stage.isUndecided = false := by
  unfold isFinished at finished
  split at finished
  · rename_i stage
    rw [stage]
    rfl
  · cases finished

theorem Happening.looked_of_lookup? {e : Happening} {h : Engine.Happening} (looked : e.lookup? = some h) :
    e.deed = .looked h.deed ∧ h.path = e.reference.storePath := by
  unfold lookup? at looked
  split at looked
  · rename_i deed same
    cases looked
    exact ⟨same, rfl⟩
  · cases looked

namespace Progress

variable {σ : Type} {store : Store σ} {batch : Batch} {p p' : Progress σ} {i : Nat} {told : List Happening}
  {e : Happening}

theorem Paired.lookup_at {f : Fetch} (paired : p.Paired) (here : p.fetches[i]? = some f) :
    ∃ l, p.lookups.lookups[i]? = some l := by
  have same := congrArg (·[i]?) paired
  simp only [List.getElem?_map, here, Option.map_some, Option.map_eq_some_iff] at same
  obtain ⟨l, there, -⟩ := same
  exact ⟨l, there⟩

theorem Step.getElem?_ne {j : Nat} (step : Step store p i p') (other : i ≠ j) :
    p'.fetches[j]? = p.fetches[j]? ∧ p'.lookups.lookups[j]? = p.lookups.lookups[j]? := by
  cases step with
  | start => exact ⟨getElem?_setStage_ne p _ other, rfl⟩
  | lookup here classifying unsettled moved => exact ⟨rfl, moved.getElem?_ne other⟩
  | refuse => exact ⟨getElem?_setStage_ne p _ other, rfl⟩
  | read => exact ⟨getElem?_setStage_ne p _ other, rfl⟩
  | finish => exact ⟨getElem?_setStage_ne p _ other, rfl⟩

def Done (p : Progress σ) (told : List Happening) : Prop :=
  ∀ i f l, p.fetches[i]? = some f → p.lookups.lookups[i]? = some l →
    Did i f.reference l.stage f.stage (deedsOf i told)

theorem Done.step (done : p.Done told) (paired : p.Paired) (seen : Seen store p i p' e) :
    p'.Done (told ++ [e]) := by
  intro j f' l' now at_now
  obtain ⟨f, here, by_f⟩ := seen.fetch
  have mover : e.fetch = i := congrArg Happening.fetch by_f
  by_cases same : i = j
  · subst same
    obtain ⟨l, there⟩ := paired.lookup_at here
    rw [deedsOf_append_self told mover]
    exact (done i f l here there).step seen paired here there now at_now
  · obtain ⟨fetches, lookups⟩ := seen.step.getElem?_ne same
    have other : e.fetch ≠ j := by rwa [mover]
    rw [deedsOf_append_ne told other]
    exact done j f' l' (fetches.symm.trans now) (lookups.symm.trans at_now)

theorem Seen.inTurns (seen : Seen store p i p' e) (paired : p.Paired)
    (inTurns : p.lookups.InTurns (told.filterMap Happening.lookup?)) :
    p'.lookups.InTurns ((told ++ [e]).filterMap Happening.lookup?) := by
  rw [List.filterMap_append]
  have still : p.lookups.InTurns (told.filterMap Happening.lookup? ++ []) := by rwa [List.append_nil]
  cases seen with
  | start => exact still
  | @lookup f lookups e here classifying unsettled seen =>
    obtain ⟨l, there, lookup, path⟩ := seen.lookup
    have own : (f.does i (.looked e.deed)).lookup? = some e := by
      rw [← lookup]
      simp [Happening.lookup?, Fetch.does, ← path.trans (paired.path here there)]
    rw [List.filterMap_cons_some own]
    exact inTurns.step seen
  | refuse => exact still
  | read => exact ⟨still.turns, still.holder⟩
  | finish => exact ⟨still.turns, still.holder⟩

theorem countP_same {f : Fetch} (here : p.fetches[i]? = some f) (stage : Stage)
    (same : stage.isUndecided = f.stage.isUndecided) :
    (p.setStage i stage).fetches.countP (·.stage.isUndecided) = p.fetches.countP (·.stage.isUndecided) := by
  have counted := countP_modify here (fun f => { f with stage }) (·.stage.isUndecided)
  rw [same] at counted
  exact Nat.add_right_cancel counted

theorem countP_decided {f : Fetch} (here : p.fetches[i]? = some f) (stage : Stage)
    (before : f.stage.isUndecided = true) (after : stage.isUndecided = false) :
    (p.setStage i stage).fetches.countP (·.stage.isUndecided) + 1 = p.fetches.countP (·.stage.isUndecided) := by
  have counted := countP_modify here (fun f => { f with stage }) (·.stage.isUndecided)
  rw [before, after, if_pos rfl, if_neg Bool.false_ne_true, Nat.add_zero] at counted
  exact counted

theorem Seen.counted (seen : Seen store p i p' e) :
    (told ++ [e]).countP (·.deed.isRead) + (told ++ [e]).countP (·.deed.isRefused) +
        p'.fetches.countP (·.stage.isUndecided) =
      told.countP (·.deed.isRead) + told.countP (·.deed.isRefused) + p.fetches.countP (·.stage.isUndecided) := by
  rw [List.countP_append, List.countP_append, List.countP_singleton, List.countP_singleton]
  generalize told.countP (·.deed.isRead) = reads
  generalize told.countP (·.deed.isRefused) = refusals
  cases seen with
  | start here queued =>
    exact congrArg (reads + refusals + ·) (countP_same here .classifying (by rw [queued]; rfl))
  | lookup => rfl
  | refuse here classifying =>
    have regroup (rest : Nat) : reads + 0 + (refusals + 1) + rest = reads + refusals + (rest + 1) := by omega
    have counted outcome := countP_decided here (.finished outcome) (by rw [classifying]; rfl) rfl
    exact (regroup _).trans (congrArg (reads + refusals + ·) (counted _))
  | @read f shape here classifying =>
    have regroup (rest : Nat) : reads + 1 + (refusals + 0) + rest = reads + refusals + (rest + 1) := by omega
    have counted answer := countP_decided here (.reading shape answer) (by rw [classifying]; rfl) rfl
    exact (regroup _).trans (congrArg (reads + refusals + ·) (counted _))
  | finish here reading =>
    exact congrArg (reads + refusals + ·) (countP_same here (.finished _) (by rw [reading]; rfl))

theorem looks_of_error {path : String} {cause : Failure} {looks : List Engine.Happening}
    (own : Lookups.Did i path (.settled (.error cause)) looks) :
    ∃ answer, classify (clean path) answer = .error cause ∧
      looking looks = [.began, .looked (.asked answer), .looked (.failed cause)] := by
  generalize at_end : Except.error cause = result at own
  cases own with
  | ended answer =>
    rw [← at_end]
    exact ⟨answer, at_end.symm, rfl⟩
  | reused => cases at_end

theorem looks_of_ok {path : String} {shape : Shape} {looks : List Engine.Happening}
    (own : Lookups.Did i path (.settled (.ok shape)) looks) :
    (∃ answer, classify (clean path) answer = .ok shape ∧
      looking looks = [.began, .looked (.asked answer), .looked (.found shape)]) ∨
    looking looks = [.began, .looked (.reused shape)] := by
  generalize at_end : Except.ok shape = result at own
  cases own with
  | ended answer =>
    rw [← at_end]
    exact .inl ⟨answer, at_end.symm, rfl⟩
  | reused =>
    cases at_end
    exact .inr rfl

theorem Did.passed {r : Reference} {stage : Lookup.Stage} {result : Outcome} {deeds : List Deed}
    (did : Did i r stage (.finished result) deeds) : Passed r deeds := by
  cases did with
  | refused own =>
    obtain ⟨answer, classified, looks⟩ := looks_of_error own
    rw [looks]
    exact .refused classified
  | finished own document =>
    rcases looks_of_ok own with ⟨answer, classified, looks⟩ | looks
    · rw [looks]
      exact .asked classified document
    · rw [looks]
      exact .shared _ document

/-- What is known of the fetches of a batch in the middle of a run that began with `s`. -/
structure Recorded (store : Store σ) (batch : Batch) (s : Session σ) (p : Progress σ) (told : List Happening) :
    Prop where
  tallied : p.Tallied batch
  paired : p.Paired
  placed : ∀ e ∈ told, batch.entries[e.fetch]? = some (e.placeholder, e.reference)
  done : p.Done told
  inTurns : p.lookups.InTurns (told.filterMap Happening.lookup?)
  determined : Determined told
  counted : told.countP (·.deed.isRead) + told.countP (·.deed.isRefused) + p.fetches.countP (·.stage.isUndecided) =
    batch.size
  calls : p.session.calls = s.calls ++ told.filterMap Happening.call?
  replies : Replies store s.state told p.session.state
  outcomes : p.outcomes = told.filterMap Happening.outcome?

theorem Recorded.entry_at {s : Session σ} {f : Fetch} (recorded : p.Recorded store batch s told)
    (here : p.fetches[i]? = some f) : batch.entries[i]? = some (f.placeholder, f.reference) := by
  rw [← recorded.tallied.entries, List.getElem?_map, here]
  rfl

theorem Recorded.found_of_result {s : Session σ} {f : Fetch} {shape : Shape} (recorded : p.Recorded store batch s told)
    (here : p.fetches[i]? = some f) (classifying : f.stage = .classifying)
    (result : p.lookups.result? i = some (.ok shape)) :
    ∃ earlier ∈ told, earlier.deed = .looked (.found shape) ∧
      cellOf earlier.reference.storePath = cellOf f.reference.storePath := by
  obtain ⟨l, there⟩ := recorded.paired.lookup_at here
  have did := recorded.done i f l here there
  rw [stage_of_result result there, classifying] at did
  have own (deed : Deed) (member : deed ∈ deedsOf i told) :
      ∃ e ∈ told, e.deed = deed ∧ e.reference = f.reference := by
    obtain ⟨e, listed, fetch, same⟩ := mem_deedsOf.mp member
    have place := recorded.placed e listed
    rw [fetch, recorded.entry_at here] at place
    exact ⟨e, listed, same, (Prod.mk.inj (Option.some.inj place)).2.symm⟩
  generalize deedsOf i told = deeds at did own
  cases did with
  | looked looks =>
    rcases looks_of_ok looks with ⟨answer, -, did⟩ | did
    · obtain ⟨e, listed, found, same⟩ := own (.looked (.found shape)) (by simp [did])
      exact ⟨e, listed, found, by rw [same]⟩
    · obtain ⟨e, listed, reused, same⟩ := own (.looked (.reused shape)) (by simp [did])
      have seen : (⟨e.fetch, e.reference.storePath, .reused shape⟩ : Engine.Happening) ∈
          told.filterMap Happening.lookup? :=
        List.mem_filterMap.mpr ⟨e, listed, by rw [Happening.lookup?, reused]⟩
      obtain ⟨h, here_too, found⟩ := (recorded.inTurns.turns _).found_of_reused ⟨_, Lookups.mem_atMount seen rfl, rfl⟩
      obtain ⟨listed', mount⟩ := List.mem_filter.mp here_too
      obtain ⟨earlier, member, looked⟩ := List.mem_filterMap.mp listed'
      obtain ⟨deed, path⟩ := Happening.looked_of_lookup? looked
      refine ⟨earlier, member, by rw [deed, found], ?_⟩
      rw [← path, ← same]
      exact of_decide_eq_true mount

theorem Recorded.ofBatch (store : Store σ) (batch : Batch) (limit : Nat) (s : Session σ) :
    Recorded store batch s (ofBatch batch limit s) [] where
  tallied := .ofBatch batch limit s
  paired := by simp [Paired, Progress.ofBatch, Function.comp_def]
  placed := by simp
  done := by
    intro i f l here there
    obtain ⟨e, -, rfl⟩ := List.mem_map.mp (List.mem_of_getElem? here)
    obtain ⟨e', -, rfl⟩ := List.mem_map.mp (List.mem_of_getElem? there)
    exact .nothing
  inTurns := by
    constructor
    · intro mount
      exact .nil
    · intro i l answer there asking
      obtain ⟨e, -, rfl⟩ := List.mem_map.mp (List.mem_of_getElem? there)
      cases asking
  determined := by
    intro before e after whole
    simp at whole
  counted := by
    simp only [List.countP_nil, Nat.zero_add, Progress.ofBatch, List.countP_map]
    exact List.countP_eq_length.mpr fun e _ => rfl
  calls := (List.append_nil _).symm
  replies := .nil
  outcomes := rfl

theorem Recorded.step {s : Session σ} (recorded : p.Recorded store batch s told) (seen : Seen store p i p' e) :
    Recorded store batch s p' (told ++ [e]) where
  tallied := recorded.tallied.step seen.step
  paired := recorded.paired.step seen.step
  placed := by
    intro e' member
    rcases List.mem_append.mp member with member | member
    · exact recorded.placed e' member
    · cases List.mem_singleton.mp member
      obtain ⟨f, here, same⟩ := seen.fetch
      rw [same]
      exact recorded.entry_at here
  done := recorded.done.step recorded.paired seen
  inTurns := seen.inTurns recorded.paired recorded.inTurns
  determined := by
    refine recorded.determined.append fun shape answer read => ?_
    cases seen with
    | @read f shape' here classifying result =>
      cases read
      exact recorded.found_of_result here classifying result
    | start => cases read
    | lookup => cases read
    | refuse => cases read
    | finish => cases read
  counted := seen.counted.trans recorded.counted
  calls := by
    rw [seen.calls recorded.paired, recorded.calls, List.append_assoc, List.filterMap_append]
    congr 2
  replies := seen.replies recorded.paired recorded.replies
  outcomes := by
    rw [seen.outcomes, recorded.outcomes, List.filterMap_append]
    congr 1

theorem Recorded.filter_eq {s : Session σ} {f : Fetch} (recorded : p.Recorded store batch s told)
    (here : p.fetches[i]? = some f) : told.filter (·.placeholder = f.placeholder) = told.filter (·.fetch = i) := by
  have own := recorded.entry_at here
  apply List.filter_congr
  intro e member
  have place := recorded.placed e member
  apply decide_eq_decide.mpr
  constructor
  · intro same
    have keys : (batch.entries.map (·.1))[e.fetch]? = (batch.entries.map (·.1))[i]? := by
      rw [List.getElem?_map, List.getElem?_map, place, own, Option.map_some, same]
      rfl
    have bound : e.fetch < (batch.entries.map (·.1)).length := by
      rw [List.length_map]
      exact (List.getElem?_eq_some_iff.mp place).1
    exact (List.getElem?_inj bound batch.ascending.nodup_keys).mp keys
  · intro same
    rw [same, own] at place
    exact (Prod.mk.inj (Option.some.inj place)).1.symm

theorem Recorded.passed {s : Session σ} {f : Fetch} (recorded : p.Recorded store batch s told)
    (here : p.fetches[i]? = some f) (finished : f.isFinished = true) :
    Passed f.reference ((told.filter (·.placeholder = f.placeholder)).map (·.deed)) := by
  obtain ⟨l, there⟩ := recorded.paired.lookup_at here
  have did := recorded.done i f l here there
  rw [recorded.filter_eq here]
  unfold Fetch.isFinished at finished
  split at finished
  · rename_i outcome stage
    rw [stage] at did
    exact did.passed
  · cases finished

theorem Recorded.orderly {s : Session σ} (recorded : p.Recorded store batch s told)
    (finished : ∀ f ∈ p.fetches, f.isFinished = true) : Orderly store batch told s.state p.session.state := by
  have known : ∀ e ∈ told, batch.get? e.placeholder = some e.reference := fun e member =>
    Keyed.get?_eq_some_iff.mpr (List.mem_of_getElem? (recorded.placed e member))
  have passed (q : String) (r : Reference) (entry : batch.get? q = some r) :
      Passed r ((told.filter (·.placeholder = q)).map (·.deed)) := by
    obtain ⟨i, listed⟩ := List.mem_iff_getElem?.mp (Keyed.get?_eq_some_iff.mp entry)
    rw [← recorded.tallied.entries, List.getElem?_map, Option.map_eq_some_iff] at listed
    obtain ⟨f, here, same⟩ := listed
    cases same
    exact recorded.passed here (finished f (List.mem_of_getElem? here))
  refine ⟨known, passed, ?_, recorded.determined, ?_, recorded.replies⟩
  · intro q
    cases entry : batch.get? q with
    | none =>
      have none : told.filter (·.placeholder = q) = [] := by
        rw [List.filter_eq_nil_iff]
        intro e member same
        rw [← of_decide_eq_true same, known e member] at entry
        cases entry
      rw [none]
      exact Nat.zero_le 1
    | some r =>
      have few := (passed q r entry).reads_once
      rwa [List.countP_map] at few
  · have decided : p.fetches.countP (·.stage.isUndecided) = 0 := by
      rw [List.countP_eq_zero]
      intro f member
      simp [Fetch.undecided_of_finished (finished f member)]
    have counted := recorded.counted
    rw [countP_calls]
    omega

theorem recorded_history (store : Store σ) (batch : Batch) (limit : Nat) (s : Session σ) (schedule : List Nat) :
    Recorded store batch (s.log [beginNotice batch store.name]) ((first store limit batch s).run store schedule)
      ((first store limit batch s).history store schedule) :=
  history_induction happening?_self (step_eq_or_seen store) schedule (.ofBatch store batch limit _)
    fun _ recorded seen => recorded.step seen

end Progress

theorem calls_of_unread {σ : Type} (store : Store σ) (limit : Nat) (schedule : List Nat) {placeholders : List String}
    {cause : Failure} (unread : Batch.ofPlaceholders placeholders = .error cause) (s : Session σ) :
    (resolve store limit schedule placeholders s).2.calls = s.calls := by
  have value : (Batch.read placeholders).value = .error cause := unread
  unfold resolve
  simp only [value]
  exact Session.calls_log ..

/-- Whatever the store answers, and in whatever order the fetches take their steps, what is asked of the store is what
    they are seen to ask, and each of them keeps to its order. -/
theorem resolve_orderly {σ : Type} (store : Store σ) (limit : Nat) (schedule : List Nat) {placeholders : List String}
    {batch : Batch} (read : Batch.ofPlaceholders placeholders = .ok batch) (s : Session σ) :
    ∃ whole, schedule <+: whole ∧
      let told := (Progress.first store limit batch (s.log (Batch.read placeholders).events)).history store whole
      let resolved := resolve store limit schedule placeholders s
      resolved.2.calls = s.calls ++ told.filterMap Happening.call? ∧
      resolved.1 = .ok (ofOutcomes batch (told.filterMap Happening.outcome?)) ∧
      Orderly store batch told s.state resolved.2.state := by
  have value : (Batch.read placeholders).value = .ok batch := read
  let begun := s.log (Batch.read placeholders).events
  obtain ⟨whole, longer, last⟩ := Progress.last_eq_run store limit schedule batch begun
  have recorded := Progress.recorded_history store batch limit begun whole
  have finished := Progress.last_finished store limit schedule batch begun
  rw [last] at finished
  have orderly := recorded.orderly finished
  have resolved : resolve store limit schedule placeholders s =
      (.ok (resolveBatch store limit schedule batch begun).1, (resolveBatch store limit schedule batch begun).2) := by
    unfold resolve
    simp only [value]
    rfl
  have calls : (resolveBatch store limit schedule batch begun).2.calls =
      (Progress.last store limit schedule batch begun).session.calls :=
    (Session.calls_log ..).trans (Session.calls_log ..)
  have state : (resolveBatch store limit schedule batch begun).2.state =
      (Progress.last store limit schedule batch begun).session.state := rfl
  have result : (resolveBatch store limit schedule batch begun).1 =
      ofOutcomes batch (Progress.last store limit schedule batch begun).outcomes := rfl
  have before : (begun.log [beginNotice batch store.name]).calls = s.calls :=
    (Session.calls_log ..).trans (Session.calls_log ..)
  rw [last] at calls state result
  refine ⟨whole, longer, ?_⟩
  dsimp only
  rw [resolved, calls, state, result]
  refine ⟨?_, ?_, orderly⟩
  · rw [← before]
    exact recorded.calls
  · exact congrArg (fun outcomes => Except.ok (ofOutcomes batch outcomes)) recorded.outcomes

end Resolution

end SecretTemplate
