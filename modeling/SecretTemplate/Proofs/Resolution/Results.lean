import SecretTemplate.Proofs.Resolution.Accounting
import SecretTemplate.Proofs.Resolution.Reads

namespace SecretTemplate.Resolution

abbrev Result := Except Failure String

namespace Result

def isText : Result → Bool
  | .ok text => !text.isEmpty
  | .error _ => false

def isBlank : Result → Bool
  | .ok text => text.isEmpty
  | .error _ => false

def isFailure : Result → Bool
  | .ok _ => false
  | .error _ => true

theorem isFetched_kept (result : Result) : isFetched (kept result) = isText result := by
  cases result with
  | error cause => rfl
  | ok text => by_cases empty : text = "" <;> simp [kept, Except.map, isFetched, isText, empty]

theorem cause?_kept (result : Result) : (cause? (kept result)).isSome = isFailure result := by
  cases result <;> rfl

theorem one_kind (result : Result) :
    (if isText result then 1 else 0) + (if isFailure result then 1 else 0) + (if isBlank result then 1 else 0) = 1 := by
  cases result with
  | error cause => rfl
  | ok text => by_cases empty : text = "" <;> simp [isText, isFailure, isBlank, empty]

end Result

def Happening.result? (e : Happening) : Option (String × Result) :=
  match e.deed with
  | .refused cause => some (e.placeholder, .error cause)
  | .read shape answer => some (e.placeholder, fieldText shape e.reference answer)
  | _ => none

def results (told : List Happening) : List (String × Result) := told.filterMap Happening.result?

/-- The best value known of a placeholder: the text of its fetch, or its fallback if there is none. -/
def finalValue (results : List (String × Result)) (p : String) : String :=
  match Reference.parse p, lookup p results with
  | .ok r, some (.ok text) => if text.isEmpty then r.fallback else text
  | .ok r, _ => r.fallback
  | .error _, _ => ""

theorem countP_results (results : List (String × Result)) :
    (results.countP fun e => Result.isText e.2) + (results.countP fun e => Result.isFailure e.2) +
      (results.countP fun e => Result.isBlank e.2) = results.length := by
  induction results with
  | nil => rfl
  | cons e rest ih =>
    have kind := Result.one_kind e.2
    simp only [List.countP_cons, List.length_cons]
    omega

theorem filter_keyed {α : Type} (f : Happening → Option (String × α))
    (keyed : ∀ e x, f e = some x → x.1 = e.placeholder)
    (told : List Happening) (p : String) :
    (told.filterMap f).filter (·.1 = p) = (told.filter (·.placeholder = p)).filterMap f := by
  rw [List.filter_filterMap, List.filterMap_filter]
  apply List.filterMap_congr
  intro e member
  cases gives : f e with
  | none => simp
  | some x =>
    have key := keyed e x gives
    by_cases same : e.placeholder = p
    · simp [Option.filter, key, same]
    · simp [Option.filter, key, same]

theorem nodup_keys_of_filter {α : Type} {entries : List (String × α)}
    (few : ∀ p, (entries.filter (·.1 = p)).length ≤ 1) : (entries.map (·.1)).Nodup := by
  rw [List.nodup_iff_count_le_one]
  intro p
  have counted := few p
  rw [← List.countP_eq_length_filter] at counted
  rw [List.count, List.countP_map]
  refine Nat.le_trans (Nat.le_of_eq ?_) counted
  apply List.countP_congr
  intro e member
  simp

theorem result?_placeholder (e : Happening) (x : String × Result) (gives : e.result? = some x) :
    x.1 = e.placeholder := by
  unfold Happening.result? at gives
  split at gives
  · cases gives
    rfl
  · cases gives
    rfl
  · cases gives

theorem outcome?_placeholder (e : Happening) (x : String × Outcome) (gives : e.outcome? = some x) :
    x.1 = e.placeholder := by
  unfold Happening.outcome? at gives
  split at gives
  · cases gives
    rfl
  · cases gives
    rfl
  · cases gives

theorem Passed.result {r : Reference} {deeds : List Deed} (passed : Passed r deeds) (p : String) :
    ∃ result, (deeds.filterMap fun deed => (Happening.mk 0 p r deed).result?) = [(p, result)] ∧
      (deeds.filterMap fun deed => (Happening.mk 0 p r deed).outcome?) = [(p, kept result)] := by
  cases passed with
  | @refused answer cause => exact ⟨.error cause, rfl, rfl⟩
  | @asked answer shape classified document => exact ⟨fieldText shape r document, rfl, rfl⟩
  | shared shape document => exact ⟨fieldText shape r document, rfl, rfl⟩

section

variable {σ : Type} {store : Store σ} {batch : Batch} {told : List Happening} {start finish : σ}

theorem Orderly.result_of {p : String} {r : Reference} (orderly : Orderly store batch told start finish)
    (known : batch.get? p = some r) :
    ∃ result, (results told).filter (·.1 = p) = [(p, result)] ∧
      (told.filterMap Happening.outcome?).filter (·.1 = p) = [(p, kept result)] := by
  obtain ⟨result, first, second⟩ := (orderly.passed p r known).result p
  have own := orderly.own known
  refine ⟨result, ?_, ?_⟩
  · rw [results, filter_keyed _ result?_placeholder, filterMap_deeds _ (fun _ _ => rfl) own, first]
  · rw [filter_keyed _ outcome?_placeholder, filterMap_deeds _ (fun _ _ => rfl) own, second]

theorem Orderly.filter_unknown {α : Type} (orderly : Orderly store batch told start finish)
    (f : Happening → Option (String × α)) (keyed : ∀ e x, f e = some x → x.1 = e.placeholder) {p : String}
    (unknown : batch.get? p = none) : (told.filterMap f).filter (·.1 = p) = [] := by
  have none : told.filter (·.placeholder = p) = [] := by
    rw [List.filter_eq_nil_iff]
    intro e member same
    rw [← of_decide_eq_true same, orderly.known e member] at unknown
    cases unknown
  rw [filter_keyed f keyed, none, List.filterMap_nil]

theorem Orderly.nodup_keys {α : Type} (orderly : Orderly store batch told start finish)
    {f : Happening → Option (String × α)} (keyed : ∀ e x, f e = some x → x.1 = e.placeholder)
    (single : ∀ p r, batch.get? p = some r → ∃ x, (told.filterMap f).filter (·.1 = p) = [x]) :
    ((told.filterMap f).map (·.1)).Nodup := by
  apply nodup_keys_of_filter
  intro p
  cases known : batch.get? p with
  | none =>
    rw [orderly.filter_unknown f keyed known]
    exact Nat.zero_le 1
  | some r =>
    obtain ⟨x, only⟩ := single p r known
    rw [only, List.length_singleton]

theorem Orderly.results_nodup (orderly : Orderly store batch told start finish) :
    ((results told).map (·.1)).Nodup := by
  apply orderly.nodup_keys result?_placeholder
  intro p r known
  obtain ⟨result, only, -⟩ := orderly.result_of known
  exact ⟨_, only⟩

theorem Orderly.outcomes_nodup (orderly : Orderly store batch told start finish) :
    ((told.filterMap Happening.outcome?).map (·.1)).Nodup := by
  apply orderly.nodup_keys outcome?_placeholder
  intro p r known
  obtain ⟨result, -, only⟩ := orderly.result_of known
  exact ⟨_, only⟩

theorem Orderly.mem_results_iff {p : String} (orderly : Orderly store batch told start finish) :
    p ∈ (results told).map (·.1) ↔ p ∈ batch.keys := by
  rw [Keyed.mem_keys_iff]
  constructor
  · intro member
    obtain ⟨x, listed, same⟩ := List.mem_map.mp member
    obtain ⟨e, happened, gives⟩ := List.mem_filterMap.mp listed
    rw [← same, result?_placeholder e x gives]
    exact ⟨_, orderly.known e happened⟩
  · rintro ⟨r, known⟩
    obtain ⟨result, only, -⟩ := orderly.result_of known
    have listed : (p, result) ∈ (results told).filter (·.1 = p) := by simp [only]
    exact List.mem_map.mpr ⟨_, (List.mem_filter.mp listed).1, rfl⟩

theorem Orderly.outcomes_perm (orderly : Orderly store batch told start finish) :
    (told.filterMap Happening.outcome?).Perm ((results told).map fun e => (e.1, kept e.2)) := by
  have keys : ((results told).map fun e => (e.1, kept e.2)).map (·.1) = (results told).map (·.1) := by
    simp [Function.comp_def]
  have first : (told.filterMap Happening.outcome?).Nodup := List.Nodup.of_map _ orderly.outcomes_nodup
  have second : ((results told).map fun e => (e.1, kept e.2)).Nodup :=
    List.Nodup.of_map (·.1) (by rw [keys]; exact orderly.results_nodup)
  refine (List.perm_ext_iff_of_nodup first second).mpr fun ⟨p, outcome⟩ => ?_
  -- Whether an entry is listed is seen from the entries of its own placeholder.
  have here : (p, outcome) ∈ told.filterMap Happening.outcome? ↔
      (p, outcome) ∈ (told.filterMap Happening.outcome?).filter (·.1 = p) := by simp
  have there : (p, outcome) ∈ (results told).map (fun e => (e.1, kept e.2)) ↔
      (p, outcome) ∈ ((results told).filter (·.1 = p)).map fun e => (e.1, kept e.2) := by
    simp
  rw [here, there]
  cases known : batch.get? p with
  | none =>
    rw [orderly.filter_unknown _ outcome?_placeholder known, results,
      orderly.filter_unknown _ result?_placeholder known]
    simp
  | some r =>
    obtain ⟨result, one, other⟩ := orderly.result_of known
    rw [one, other]
    simp

theorem Orderly.ofOutcomes_results (orderly : Orderly store batch told start finish) :
    ofOutcomes batch (told.filterMap Happening.outcome?) =
      settled batch ((results told).map fun e => (e.1, kept e.2)) := by
  rw [← settled_perm batch orderly.outcomes_nodup orderly.outcomes_perm]
  apply ofOutcomes_eq_settled batch _ orderly.outcomes_nodup
  intro x member
  obtain ⟨e, happened, gives⟩ := List.mem_filterMap.mp member
  rw [outcome?_placeholder e x gives]
  exact ⟨_, orderly.known e happened⟩

theorem value_settle {p : String} {r : Reference} {result : Result} {results : List (String × Result)}
    (parsed : Reference.parse p = .ok r) (found : lookup p results = some result) :
    (settle r (kept result)).value = finalValue results p := by
  have fallback := Batch.value_parse parsed
  unfold finalValue
  rw [parsed, found]
  cases result with
  | error cause => exact fallback
  | ok text =>
    by_cases empty : text = ""
    · simp [kept, Except.map, settle, empty, fallback]
    · simp [kept, Except.map, settle, empty]

end

/-- A resolution tells of its placeholders what their fetches came to. -/
structure Reflects (placeholders : List String) (results : List (String × Result)) (resolution : Resolution) :
    Prop where
  each : (results.map (·.1)).Perm placeholders.dedup
  size : resolution.batch.size = placeholders.dedup.length
  value : ∀ p, (resolution.batch.get? p).map (·.value) =
    if p ∈ placeholders then some (finalValue results p) else none
  resolved : resolution.resolved = results.countP fun e => Result.isText e.2
  fetched : ∀ e ∈ results, Result.isText e.2 = true → finalValue results e.1 ≠ ""
  failure : resolution.failure? = none → ∀ e ∈ results, Result.isFailure e.2 = false

theorem Orderly.reflects {σ : Type} {store : Store σ} {placeholders : List String} {batch : Batch}
    {told : List Happening} {start finish : σ} (orderly : Orderly store batch told start finish)
    (read : Batch.ofPlaceholders placeholders = .ok batch) :
    Reflects placeholders (results told) (ofOutcomes batch (told.filterMap Happening.outcome?)) := by
  have keys (p : String) : p ∈ (results told).map (·.1) ↔ p ∈ placeholders :=
    orderly.mem_results_iff.trans (Batch.mem_keys_ofPlaceholders read p)
  have result_of {p : String} {r : Reference} (known : batch.get? p = some r) :
      ∃ result, lookup p (results told) = some result := by
    have listed := orderly.mem_results_iff.mpr (Keyed.mem_keys_iff.mpr ⟨r, known⟩)
    exact Option.ne_none_iff_exists'.mp fun none => lookup_eq_none.mp none listed
  rw [orderly.ofOutcomes_results]
  have value (p : String) :
      (((settled batch ((results told).map fun e => (e.1, kept e.2))).batch.get? p).map (·.value)) =
        if p ∈ placeholders then some (finalValue (results told) p) else none := by
    rw [get?_settled]
    cases known : batch.get? p with
    | none =>
      have absent : p ∉ placeholders := by
        rw [← Batch.mem_keys_ofPlaceholders read, Keyed.mem_keys_iff]
        simp [known]
      simp [absent]
    | some r =>
      obtain ⟨listed, parsed⟩ := (Batch.get?_ofPlaceholders read p r).mp known
      obtain ⟨result, found⟩ := result_of known
      simp [listed, lookup_map, found, value_settle parsed found]
  refine ⟨?_, ?_, value, ?_, ?_, ?_⟩
  · refine (List.perm_ext_iff_of_nodup orderly.results_nodup placeholders.nodup_dedup).mpr fun p => ?_
    rw [List.mem_dedup]
    exact keys p
  · apply Batch.size_of_keys
    intro p
    rw [Keyed.mem_keys_iff, get?_settled, ← Batch.mem_keys_ofPlaceholders read, Keyed.mem_keys_iff]
    simp
  · simp only [settled, List.countP_map]
    apply List.countP_congr
    intro e member
    simp [Result.isFetched_kept]
  · rintro ⟨p, result⟩ member isText
    have listed := (keys p).mp (List.mem_map_of_mem member)
    obtain ⟨r, parsed⟩ := Batch.readable_of_ofPlaceholders read p listed
    unfold finalValue
    rw [parsed, (lookup_eq_some_iff orderly.results_nodup).mpr member]
    cases result with
    | error cause => cases isText
    | ok text =>
      have nonempty : text ≠ "" := by
        rintro rfl
        cases isText
      simp [nonempty]
  · intro clear e member
    obtain ⟨r, known⟩ := Keyed.mem_keys_iff.mp (orderly.mem_results_iff.mp (List.mem_map_of_mem member))
    have unlisted := failure?_eq_none_iff.mp clear e.1
    rw [failure_settled, known, lookup_map, (lookup_eq_some_iff orderly.results_nodup).mpr member] at unlisted
    have succeeded : cause? (kept e.2) = none := unlisted
    rw [← Result.cause?_kept, succeeded]
    rfl

end SecretTemplate.Resolution
