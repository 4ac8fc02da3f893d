import Mathlib.Data.List.Forall2
import SecretTemplate.Resolution
import SecretTemplate.Proofs.Resolution.Completion

namespace SecretTemplate.Resolution

open Engine (Shape Lookup Lookups)

def cause? : Outcome → Option Failure
  | .error cause => some cause
  | .ok _ => none

def isFetched : Outcome → Bool
  | .ok (some _) => true
  | _ => false

def settle (r : Reference) : Outcome → Reference
  | .ok (some value) => { r with value := value }
  | _ => r

def Fetch.ended? (f : Fetch) : Option (String × Outcome) :=
  match f.stage with
  | .finished outcome => some (f.placeholder, outcome)
  | _ => none

/-- The resolution of a batch in which every reference has at most one outcome. -/
def settled (batch : Batch) (ends : List (String × Outcome)) : Resolution where
  batch := batch.filterMap fun placeholder r => some (settle r ((lookup placeholder ends).getD (.ok none)))
  failures := batch.filterMap fun placeholder _ => (lookup placeholder ends).bind cause?
  resolved := ends.countP fun e => isFetched e.2

theorem get?_settled (batch : Batch) (ends : List (String × Outcome)) (placeholder : String) :
    (settled batch ends).batch.get? placeholder =
      (batch.get? placeholder).map fun r => settle r ((lookup placeholder ends).getD (.ok none)) := by
  simp only [settled, Keyed.get?_filterMap]
  cases batch.get? placeholder <;> rfl

theorem failure_settled (batch : Batch) (ends : List (String × Outcome)) (placeholder : String) :
    (settled batch ends).failures.get? placeholder =
      (batch.get? placeholder).bind fun _ => (lookup placeholder ends).bind cause? := by
  simp only [settled, Keyed.get?_filterMap]

theorem settled_perm (batch : Batch) {left right : List (String × Outcome)}
    (distinct : (left.map (·.1)).Nodup) (perm : left.Perm right) : settled batch left = settled batch right := by
  have same : (lookup · left) = (lookup · right) := by
    funext placeholder
    exact lookup_perm distinct perm placeholder
  unfold settled
  simp only [congrFun same, perm.countP_eq]

theorem record_batch (r : Resolution) (placeholder key : String) (outcome : Outcome) :
    (r.record placeholder outcome).batch.get? key =
      (r.batch.get? key).map fun reference => if key = placeholder then settle reference outcome else reference := by
  have unchanged (found : Option Reference) :
      found = found.map fun reference => if key = placeholder then reference else reference := by
    cases found <;> simp
  cases outcome with
  | error cause => exact unchanged _
  | ok fetched =>
    cases fetched with
    | none => exact unchanged _
    | some value =>
      simp only [record, Batch.setValue, Keyed.get?_modify, settle]
      by_cases same : key = placeholder
      · simp [same]
      · simp [same]

theorem record_failures (r : Resolution) (placeholder key : String) (outcome : Outcome) :
    (r.record placeholder outcome).failures.get? key =
      (if key = placeholder then cause? outcome else none).or (r.failures.get? key) := by
  cases outcome with
  | error cause =>
    simp only [record, Keyed.get?_insert, cause?]
    split <;> rfl
  | ok fetched =>
    cases fetched <;> simp [record, cause?]

theorem record_resolved (r : Resolution) (placeholder : String) (outcome : Outcome) :
    (r.record placeholder outcome).resolved = r.resolved + if isFetched outcome then 1 else 0 := by
  cases outcome with
  | error cause => rfl
  | ok fetched => cases fetched <;> rfl

theorem foldl_record (ends : List (String × Outcome)) (distinct : (ends.map (·.1)).Nodup) (r : Resolution) :
    (∀ key, (ends.foldl (fun r e => r.record e.1 e.2) r).batch.get? key =
      (r.batch.get? key).map fun reference => settle reference ((lookup key ends).getD (.ok none))) ∧
    (∀ key, (ends.foldl (fun r e => r.record e.1 e.2) r).failures.get? key =
      ((lookup key ends).bind cause?).or (r.failures.get? key)) ∧
    (ends.foldl (fun r e => r.record e.1 e.2) r).resolved = r.resolved + ends.countP fun e => isFetched e.2 := by
  induction ends generalizing r with
  | nil =>
    refine ⟨fun key => ?_, fun key => rfl, rfl⟩
    cases found : r.batch.get? key <;> simp [lookup, settle, found]
  | cons e rest ih =>
    obtain ⟨fresh, tail⟩ := List.nodup_cons.mp distinct
    obtain ⟨batch, failures, resolved⟩ := ih tail (r.record e.1 e.2)
    have absent := lookup_eq_none.mpr fresh
    simp only [List.foldl_cons, lookup]
    refine ⟨fun key => ?_, fun key => ?_, ?_⟩
    · rw [batch, record_batch, Option.map_map]
      congr 1
      funext reference
      by_cases same : key = e.1
      · subst same
        simp [absent, settle]
      · simp [same, Ne.symm same]
    · rw [failures, record_failures]
      by_cases same : key = e.1
      · subst same
        simp [absent]
      · simp [same, Ne.symm same]
    · rw [resolved, record_resolved, List.countP_cons]
      omega

/-- The outcomes of a batch, each taken into account as it comes, make the resolution that they determine. -/
theorem ofOutcomes_eq_settled (batch : Batch) (ends : List (String × Outcome))
    (distinct : (ends.map (·.1)).Nodup) (known : ∀ e ∈ ends, ∃ r, batch.get? e.1 = some r) :
    ofOutcomes batch ends = settled batch ends := by
  obtain ⟨references, failures, resolved⟩ := foldl_record ends distinct ⟨batch, ∅, 0⟩
  have sameBatch : (ofOutcomes batch ends).batch = (settled batch ends).batch := by
    apply Keyed.ext_get?
    intro key
    rw [get?_settled]
    exact references key
  have sameFailures : (ofOutcomes batch ends).failures = (settled batch ends).failures := by
    apply Keyed.ext_get?
    intro key
    rw [failure_settled]
    refine (failures key).trans ?_
    rw [Keyed.get?_empty, Option.or_none]
    cases found : lookup key ends with
    | none => simp
    | some outcome =>
      obtain ⟨r, member⟩ := known _ (mem_of_lookup found)
      rw [member]
      rfl
  have sameCount : (ofOutcomes batch ends).resolved = (settled batch ends).resolved :=
    resolved.trans (Nat.zero_add _)
  cases whole : ofOutcomes batch ends
  rw [whole] at sameBatch sameFailures sameCount
  cases sameBatch
  cases sameFailures
  cases sameCount
  rfl

namespace Progress

variable {σ : Type} {store : Store σ} {batch : Batch} {p p' : Progress σ} {i : Nat}

structure Tallied (batch : Batch) (p : Progress σ) : Prop where
  entries : p.fetches.map (fun f => (f.placeholder, f.reference)) = batch.entries
  outcomes : p.outcomes.Perm (p.fetches.filterMap Fetch.ended?)

theorem Tallied.ofBatch (batch : Batch) (limit : Nat) (s : Session σ) :
    (ofBatch batch limit s).Tallied batch where
  entries := by simp [Progress.ofBatch, Function.comp_def]
  outcomes := by
    have none : (Progress.ofBatch batch limit s).fetches.filterMap Fetch.ended? = [] := by
      rw [List.filterMap_eq_nil_iff]
      intro f member
      obtain ⟨e, _, rfl⟩ := List.mem_map.mp member
      rfl
    rw [none]
    exact .nil

theorem Tallied.move {f : Fetch} (tallied : p.Tallied batch) (stage : Stage) (here : p.fetches[i]? = some f)
    (unended : f.ended? = none) (fetches : p'.fetches = (p.setStage i stage).fetches)
    (outcomes : p'.outcomes = p.outcomes ++ ({ f with stage } : Fetch).ended?.toList) : p'.Tallied batch := by
  obtain ⟨before, after, whole, -, changed⟩ := modify_split here fun f => { f with stage }
  have now : p'.fetches = before ++ { f with stage } :: after := fetches.trans changed
  constructor
  · rw [← tallied.entries, now, whole]
    simp
  · have earlier := tallied.outcomes
    rw [whole, List.filterMap_append, List.filterMap_cons_none unended] at earlier
    rw [outcomes, now, List.filterMap_append]
    cases ended : ({ f with stage } : Fetch).ended? with
    | none =>
      rw [List.filterMap_cons_none ended, Option.toList_none, List.append_nil]
      exact earlier
    | some e =>
      rw [List.filterMap_cons_some ended]
      exact (earlier.append_right [e]).trans ((List.perm_append_singleton ..).trans List.perm_middle.symm)

theorem Tallied.step (tallied : p.Tallied batch) (step : Step store p i p') : p'.Tallied batch := by
  cases step with
  | start here queued =>
    exact tallied.move .classifying here (by simp [Fetch.ended?, queued]) rfl (List.append_nil _).symm
  | lookup => exact ⟨tallied.entries, tallied.outcomes⟩
  | refuse here classifying =>
    exact tallied.move (.finished (.error _)) here (by simp [Fetch.ended?, classifying]) rfl rfl
  | read here classifying =>
    exact tallied.move (.reading _ _) here (by simp [Fetch.ended?, classifying]) rfl (List.append_nil _).symm
  | finish here reading =>
    exact tallied.move (.finished _) here (by simp [Fetch.ended?, reading]) rfl rfl

end Progress

/-- `ends` gives the entries of a batch, in their order, outcomes that are related to their references. -/
abbrev Ends (related : Reference → Outcome → Prop) : List (String × Reference) → List (String × Outcome) → Prop :=
  List.Forall₂ fun entry e => entry.1 = e.1 ∧ related entry.2 e.2

section Ends

variable {related : Reference → Outcome → Prop} {entries : List (String × Reference)} {ends : List (String × Outcome)}

theorem Ends.keys (h : Ends related entries ends) : ends.map (·.1) = entries.map (·.1) := by
  induction h with
  | nil => rfl
  | cons head _ ih => rw [List.map_cons, List.map_cons, head.1, ih]

theorem Ends.lookup {placeholder : String} {r : Reference} (h : Ends related entries ends)
    (found : lookup placeholder entries = some r) :
    ∃ outcome, SecretTemplate.lookup placeholder ends = some outcome ∧ related r outcome := by
  induction h with
  | nil => cases found
  | @cons entry e _ _ head _ ih =>
    obtain ⟨key, r'⟩ := entry
    obtain ⟨same, holds⟩ := head
    simp only [SecretTemplate.lookup] at found ⊢
    split at found
    · rename_i here
      cases found
      exact ⟨e.2, if_pos (same.symm.trans here), holds⟩
    · rename_i elsewhere
      rw [if_neg fun here => elsewhere (same.trans here)]
      exact ih found

theorem Ends.ofFetches {fetches : List Fetch} (finished : ∀ f ∈ fetches, f.isFinished = true)
    (holds : ∀ f ∈ fetches, ∀ outcome, f.stage = .finished outcome → related f.reference outcome) :
    Ends related (fetches.map fun f => (f.placeholder, f.reference)) (fetches.filterMap Fetch.ended?) := by
  induction fetches with
  | nil => exact .nil
  | cons f rest ih =>
    have later := ih (fun g member => finished g (List.mem_cons_of_mem _ member))
      (fun g member => holds g (List.mem_cons_of_mem _ member))
    have done := finished f (List.mem_cons_self ..)
    unfold Fetch.isFinished at done
    split at done
    · rename_i outcome stage
      have ended : f.ended? = some (f.placeholder, outcome) := by simp [Fetch.ended?, stage]
      rw [List.filterMap_cons_some ended]
      exact .cons ⟨rfl, holds f (List.mem_cons_self ..) outcome stage⟩ later
    · cases done

theorem Ends.ofOutcomes {batch : Batch} {outcomes : List (String × Outcome)} (h : Ends related batch.entries ends)
    (perm : outcomes.Perm ends) : ofOutcomes batch outcomes = settled batch ends := by
  have distinct : (ends.map (·.1)).Nodup := by
    rw [h.keys]
    exact batch.ascending.nodup_keys
  have distinct' : (outcomes.map (·.1)).Nodup := (perm.map _).nodup_iff.mpr distinct
  rw [← settled_perm batch distinct' perm]
  refine ofOutcomes_eq_settled batch outcomes distinct' ?_
  intro e member
  have key : e.1 ∈ ends.map (·.1) := List.mem_map.mpr ⟨e, perm.mem_iff.mp member, rfl⟩
  rw [h.keys] at key
  exact Keyed.mem_keys_iff.mp key

end Ends

variable {σ : Type} (store : Store σ) (limit : Nat) (schedule : List Nat) (batch : Batch) (s : Session σ)

namespace Progress

def first : Progress σ := ofBatch batch limit (s.log [beginNotice batch store.name])

def last : Progress σ := ((first store limit batch s).run store schedule).complete store

theorem last_finished : ∀ f ∈ (last store limit schedule batch s).fetches, f.isFinished = true :=
  ((Live.ofBatch batch limit _).run schedule).complete_finished

theorem last_eq_run (store : Store σ) (limit : Nat) (schedule : List Nat) (batch : Batch) (s : Session σ) :
    ∃ whole, schedule <+: whole ∧ last store limit schedule batch s = (first store limit batch s).run store whole := by
  obtain ⟨later, same⟩ := rounds_eq_run store _ ((first store limit batch s).run store schedule)
  refine ⟨schedule ++ later, List.prefix_append .., ?_⟩
  rw [run_append]
  exact same

theorem last_induction {motive : Progress σ → Prop} (start : motive (first store limit batch s))
    (step : ∀ {p p' : Progress σ} {i : Nat}, motive p → Step store p i p' → motive p') :
    motive (last store limit schedule batch s) := by
  obtain ⟨whole, -, same⟩ := last_eq_run store limit schedule batch s
  rw [same]
  exact run_induction (step_eq_or_step store) whole start fun _ before moved => step before moved

theorem last_ends {related : Reference → Outcome → Prop}
    (holds : ∀ f ∈ (last store limit schedule batch s).fetches, ∀ outcome, f.stage = .finished outcome →
      related f.reference outcome) :
    ∃ ends, (last store limit schedule batch s).outcomes.Perm ends ∧ Ends related batch.entries ends := by
  have tallied := last_induction store limit schedule batch s (Tallied.ofBatch batch limit _) Tallied.step
  have ends := Ends.ofFetches (last_finished store limit schedule batch s) holds
  rw [tallied.entries] at ends
  exact ⟨_, tallied.outcomes, ends⟩

end Progress

theorem resolveBatch_settled {invariant : Progress σ → Prop} {related : Reference → Outcome → Prop}
    (start : ∀ s, invariant (Progress.ofBatch batch limit s))
    (step : ∀ {p p' : Progress σ} {i : Nat}, invariant p → Progress.Step store p i p' → invariant p')
    (holds : ∀ p, invariant p → ∀ f ∈ p.fetches, ∀ outcome, f.stage = .finished outcome → related f.reference outcome) :
    ∃ ends, (resolveBatch store limit schedule batch s).1 = settled batch ends ∧ Ends related batch.entries ends := by
  have kept := Progress.last_induction store limit schedule batch s (start _) step
  obtain ⟨ends, perm, related⟩ := Progress.last_ends store limit schedule batch s (holds _ kept)
  exact ⟨ends, related.ofOutcomes perm, related⟩

theorem resolve_eq {placeholders : List String} (read : Batch.ofPlaceholders placeholders = .ok batch) :
    (resolve store limit schedule placeholders s).1 =
      .ok (resolveBatch store limit schedule batch (s.log (Batch.read placeholders).events)).1 := by
  have value : (Batch.read placeholders).value = .ok batch := read
  unfold resolve
  simp only [value]

theorem resolve_eq_error_iff {placeholders : List String} {cause : Failure} :
    (resolve store limit schedule placeholders s).1 = .error cause ↔
      Batch.ofPlaceholders placeholders = .error cause := by
  unfold resolve Batch.ofPlaceholders
  cases value : (Batch.read placeholders).value <;> simp [value]

theorem ofPlaceholders_of_resolve {placeholders : List String} {resolution : Resolution}
    (resolved : (resolve store limit schedule placeholders s).1 = .ok resolution) :
    ∃ batch, Batch.ofPlaceholders placeholders = .ok batch := by
  cases read : Batch.ofPlaceholders placeholders with
  | error cause => cases resolved.symm.trans ((resolve_eq_error_iff ..).mpr read)
  | ok batch => exact ⟨batch, rfl⟩

end SecretTemplate.Resolution
