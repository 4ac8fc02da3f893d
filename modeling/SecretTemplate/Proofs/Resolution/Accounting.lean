import SecretTemplate.Placeholder.Substitution
import SecretTemplate.Proofs.Batch.Reading
import SecretTemplate.Proofs.Resolution.Answers
import SecretTemplate.Proofs.Text.Order

namespace SecretTemplate.Resolution

open Text.Utf8 (encode)

def failed? (e : String × Outcome) : Option (String × Failure) := (cause? e.2).map (e.1, ·)

/-- What a resolution says of a placeholder whose fetch has ended. -/
inductive Account (resolution : Resolution) (placeholder : String) (r : Reference) : Outcome → Prop
  | failed {cause : Failure} (listed : resolution.failures.get? placeholder = some cause)
      (kept : resolution.batch.get? placeholder = some r) : Account resolution placeholder r (.error cause)
  | fetched {text : String} (nonempty : text ≠ "") (unlisted : resolution.failures.get? placeholder = none)
      (taken : resolution.batch.get? placeholder = some { r with value := text }) :
      Account resolution placeholder r (.ok (some text))
  | empty (unlisted : resolution.failures.get? placeholder = none)
      (kept : resolution.batch.get? placeholder = some r) : Account resolution placeholder r (.ok none)

/-- The resolution of placeholders whose fetches ended as `ends` says, in the order in which they did, in a
    store that gave `answers`. -/
structure Accounts (answers : Answers) (placeholders : List String) (batch : Batch) (ends : List (String × Outcome))
    (resolution : Resolution) : Prop where
  once : (ends.map (·.1)).Nodup
  all : ∀ p, p ∈ ends.map (·.1) ↔ p ∈ placeholders
  keys : ∀ p, p ∈ resolution.batch.keys ↔ p ∈ placeholders
  own : ∀ e ∈ ends, ∃ r text, Reference.parse e.1 = .ok r ∧ r.value = r.fallback ∧
    Yields answers batch.values r text ∧ e.2 = kept text ∧ Account resolution e.1 r e.2
  resolved : resolution.resolved = ends.countP fun e => isFetched e.2
  listed : resolution.failures.entries.Perm (ends.filterMap failed?)
  ordered : resolution.failures.entries.Pairwise fun e later => encode e.1 < encode later.1
  aggregate : resolution.failure? =
    if resolution.failures.entries = [] then none
    else some (.partialResolution (resolution.failures.entries.map fun e => e.2.message))
  anyOrder : ∀ order : List (String × Outcome), order.Perm ends → ofOutcomes batch order = resolution
  /-- Without a fetched text it is as if nothing had been asked. -/
  fallback : (∀ e ∈ ends, isFetched e.2 = false) →
    resolution.batch = batch ∧
      ∀ template, Placeholder.render template resolution.batch = Placeholder.render template batch

theorem nonempty_of_kept {text : Except Failure String} {value : String} (h : kept text = .ok (some value)) :
    value ≠ "" := by
  cases text with
  | error cause => cases h
  | ok found =>
    rintro rfl
    simp only [kept, Except.map, Except.ok.injEq, Option.ite_none_left_eq_some, Option.some.injEq] at h
    obtain ⟨nonempty, rfl⟩ := h
    exact nonempty rfl

variable {batch : Batch} {ends : List (String × Outcome)} {related : Reference → Outcome → Prop}

theorem account_settled {placeholder : String} {r : Reference} {outcome : Outcome}
    (known : batch.get? placeholder = some r) (ended : lookup placeholder ends = some outcome)
    (nonempty : ∀ text, outcome = .ok (some text) → text ≠ "") :
    Account (settled batch ends) placeholder r outcome := by
  have entry := get?_settled batch ends placeholder
  have failure := failure_settled batch ends placeholder
  rw [known, ended] at entry failure
  cases outcome with
  | error cause => exact .failed failure entry
  | ok fetched =>
    cases fetched with
    | none => exact .empty failure entry
    | some text => exact .fetched (nonempty text rfl) failure entry

theorem Ends.distinct (h : Ends related batch.entries ends) : (ends.map (·.1)).Nodup := by
  rw [h.keys]
  exact batch.ascending.nodup_keys

theorem Ends.failures (h : Ends related batch.entries ends) :
    (settled batch ends).failures.entries = ends.filterMap failed? := by
  have byKey : (settled batch ends).failures.entries =
      (batch.entries.map (·.1)).filterMap fun key => ((SecretTemplate.lookup key ends).bind cause?).map (key, ·) := by
    rw [List.filterMap_map]
    rfl
  rw [byKey, ← h.keys, List.filterMap_map]
  refine List.filterMap_congr fun e member => ?_
  have found := (lookup_eq_some_iff h.distinct).mpr member
  simp only [Function.comp_apply, found, Option.bind_some, failed?]

theorem failure?_eq (resolution : Resolution) :
    resolution.failure? =
      if resolution.failures.entries = [] then none
      else some (.partialResolution (resolution.failures.entries.map fun e => e.2.message)) := by
  unfold failure? Keyed.isEmpty Keyed.values
  simp only [List.isEmpty_iff, List.map_map, Function.comp_def]

theorem failure?_eq_none_iff {resolution : Resolution} :
    resolution.failure? = none ↔ ∀ p, resolution.failures.get? p = none := by
  have empty : resolution.failure? = none ↔ resolution.failures.entries = [] := by
    simp [failure?, Keyed.isEmpty]
  rw [empty, List.eq_nil_iff_forall_not_mem]
  constructor
  · intro none p
    rw [Option.eq_none_iff_forall_ne_some]
    exact fun cause found => none (p, cause) (Keyed.get?_eq_some_iff.mp found)
  · rintro none ⟨p, cause⟩ member
    cases (none p).symm.trans (Keyed.get?_eq_some_iff.mpr member)

theorem batch_settled_of_unfetched (h : Ends related batch.entries ends)
    (unfetched : ∀ e ∈ ends, isFetched e.2 = false) : (settled batch ends).batch = batch := by
  apply Keyed.ext_get?
  intro key
  rw [get?_settled]
  cases known : batch.get? key with
  | none => rfl
  | some r =>
    obtain ⟨outcome, ended, -⟩ := h.lookup known
    have rest := unfetched _ (mem_of_lookup ended)
    rw [ended]
    cases outcome with
    | error cause => rfl
    | ok fetched =>
      cases fetched with
      | none => rfl
      | some text => cases rest

theorem Ends.accounts {answers : Answers} {placeholders : List String} {outcomes : List (String × Outcome)}
    (read : Batch.ofPlaceholders placeholders = .ok batch)
    (h : Ends (CanEnd answers batch.values) batch.entries ends) (perm : outcomes.Perm ends) :
    Accounts answers placeholders batch outcomes (settled batch ends) where
  once := (perm.map _).nodup_iff.mpr h.distinct
  all := by
    intro p
    rw [(perm.map _).mem_iff, h.keys]
    exact Batch.mem_keys_ofPlaceholders read p
  keys := by
    intro p
    rw [← Batch.mem_keys_ofPlaceholders read, Keyed.mem_keys_iff, Keyed.mem_keys_iff, get?_settled]
    simp
  own := by
    intro e member
    have ended := (lookup_eq_some_iff h.distinct).mpr (perm.mem_iff.mp member)
    have key : e.1 ∈ batch.keys := by
      have listed := List.mem_map_of_mem (perm.mem_iff.mp member) (f := Prod.fst)
      rw [h.keys] at listed
      exact listed
    obtain ⟨r, known⟩ := Keyed.mem_keys_iff.mp key
    obtain ⟨outcome, found, text, yields, same⟩ := h.lookup known
    cases ended.symm.trans found
    have parsed := ((Batch.get?_ofPlaceholders read e.1 r).mp known).2
    refine ⟨r, text, parsed, Batch.value_parse parsed, yields, same, account_settled known ended ?_⟩
    intro value fetched
    exact nonempty_of_kept (same.symm.trans fetched)
  resolved := (perm.countP_eq _).symm
  listed := by
    rw [h.failures]
    exact (perm.filterMap _).symm
  ordered := Keyed.ordered_entries _
  aggregate := failure?_eq _
  anyOrder := fun order same => h.ofOutcomes (same.trans perm)
  fallback := by
    intro unfetched
    have same := batch_settled_of_unfetched h fun e member => unfetched e (perm.mem_iff.mpr member)
    exact ⟨same, fun template => by rw [same]⟩

/-- Whatever the store answers, and in whatever order the fetches end, nothing is lost or mixed up. -/
theorem resolve_accounts {σ : Type} (store : Store σ) {placeholders : List String}
    (readable : ∀ p ∈ placeholders, ∃ r, Reference.parse p = .ok r) (limit : Nat) (schedule : List Nat)
    (s : Session σ) :
    ∃ batch resolution whole,
      Batch.ofPlaceholders placeholders = .ok batch ∧
      (resolve store limit schedule placeholders s).1 = .ok resolution ∧ schedule <+: whole ∧
      let first := Progress.first store limit batch (s.log (Batch.read placeholders).events)
      Accounts (first.answersOn store whole) placeholders batch (first.run store whole).outcomes resolution := by
  obtain ⟨batch, read⟩ := Batch.ofPlaceholders_of_readable readable
  let begun := s.log (Batch.read placeholders).events
  obtain ⟨whole, longer, last⟩ := Progress.last_eq_run store limit schedule batch begun
  have told := (Progress.Told.ofBatch ((Progress.first store limit batch begun).answersOn store whole) batch limit
    (begun.log [beginNotice batch store.name])).run
  have holds : ∀ f ∈ (Progress.last store limit schedule batch begun).fetches, ∀ outcome, f.stage = .finished outcome →
      CanEnd ((Progress.first store limit batch begun).answersOn store whole) batch.values f.reference outcome := by
    intro f member outcome ended
    rw [last] at member
    obtain ⟨i, here⟩ := List.mem_iff_getElem?.mp member
    exact told.finished here ended
  obtain ⟨ends, perm, related⟩ := Progress.last_ends store limit schedule batch begun holds
  refine ⟨batch, settled batch ends, whole, read, ?_, longer, ?_⟩
  · rw [resolve_eq store limit schedule batch s read]
    exact congrArg _ (related.ofOutcomes perm)
  · rw [last] at perm
    exact related.accounts read perm

def sealing : Store Nat where
  name := "sealing"
  authenticate _ n := ⟨.ok (), [], n⟩
  mountVersion _ n := ⟨.ok (some "1"), [], n⟩
  read _ n := ⟨if n = 0 then .ok (some (.object [("k", .string "v")])) else .error (.status 503 ["sealed"]), [], n + 1⟩

theorem resolve_accounts_sealing :
    ∃ batch resolution whole,
      Batch.ofPlaceholders ["kv/b!k:y", "kv/a!k:x"] = .ok batch ∧
      (resolve sealing 2 [1, 1, 1, 0] ["kv/b!k:y", "kv/a!k:x"] ⟨0, []⟩).1 = .ok resolution ∧ [1, 1, 1, 0] <+: whole ∧
      let s : Session Nat := ⟨0, []⟩
      let first := Progress.first sealing 2 batch (s.log (Batch.read ["kv/b!k:y", "kv/a!k:x"]).events)
      Accounts (first.answersOn sealing whole) ["kv/b!k:y", "kv/a!k:x"] batch (first.run sealing whole).outcomes
        resolution := by
  refine resolve_accounts sealing ?_ 2 [1, 1, 1, 0] ⟨0, []⟩
  intro p member
  simp only [List.mem_cons, List.not_mem_nil, or_false] at member
  rcases member with rfl | rfl
  · exact ⟨_, rfl⟩
  · exact ⟨_, rfl⟩

example :
    ((resolve sealing 2 [] ["kv/b!k:y", "kv/a!k:x"] ⟨0, []⟩).1.toOption.map fun r =>
      (r.batch.entries.map fun e => (e.1, e.2.value), r.failures.entries, r.resolved)) =
      some ([("kv/a!k:x", "v"), ("kv/b!k:y", "y")],
        [("kv/b!k:y", .unreachable "kv/b" (.status 503 ["sealed"]))], 1) := by
  decide +kernel

end SecretTemplate.Resolution
