import SecretTemplate.Proofs.Resolution.Places

namespace SecretTemplate

open Engine (Shape Proper clean)
open Text.Utf8 (Bytes)

def Call.path? : Call → Option String
  | .authenticate _ => none
  | .mountVersion path => some path
  | .read path => some path

/-- Nothing but slashes, so that cleaning leaves nothing. -/
def Slashes (path : String) : Prop := ∀ c ∈ path.toList, c = '/'

theorem Placeholder.clean_eq_empty_iff {template : Bytes} {p : String} {r : Reference}
    (member : p ∈ Placeholder.find template) (parsed : Reference.parse p = .ok r) :
    clean r.storePath = "" ↔ Slashes r.storePath := by
  have unblank : ∀ c ∈ r.storePath.toList, Text.isBlank c = false := fun c inside =>
    (Placeholder.isTokenChar_iff.mp (Placeholder.storePath_of_mem_find member parsed c inside)).1
  rw [Engine.clean_eq_empty_iff, Text.trim, Text.strip_of_neg unblank]
  rfl

namespace Resolution

/-- The call asks for the shape or for the document of a reference. -/
def AskedFor (r : Reference) (call : Call) : Prop :=
  call = .mountVersion (clean r.storePath) ∨ ∃ shape : Shape, call = .read (shape.readPath r.storePath)

section

variable {σ : Type} {store : Store σ} {batch : Batch} {told : List Happening} {start finish : σ} {call : Call}
  {p : String} {r : Reference}

theorem AskedFor.path (asked : AskedFor r call) :
    ∃ path, call.path? = some path ∧ (Proper path ↔ clean r.storePath ≠ "") := by
  rcases asked with rfl | ⟨shape, rfl⟩
  · exact ⟨_, rfl, Engine.proper_clean_iff _⟩
  · exact ⟨_, rfl, Engine.proper_readPath_iff ..⟩

theorem Happening.askedFor {e : Happening} (called : e.call? = some call) : AskedFor e.reference call := by
  unfold call? at called
  split at called
  · cases called
    exact .inl rfl
  · cases called
    exact .inr ⟨_, rfl⟩
  · cases called

theorem Passed.calls {deeds : List Deed} (passed : Passed r deeds) (p : String) :
    ∃ deed ∈ deeds, ∃ call, (Happening.mk 0 p r deed).call? = some call := by
  cases passed with
  | refused => exact ⟨_, List.mem_cons_of_mem _ (List.mem_cons_self ..), _, rfl⟩
  | asked => exact ⟨_, List.mem_cons_of_mem _ (List.mem_cons_self ..), _, rfl⟩
  | shared shape document => exact ⟨.read shape document, by simp, _, rfl⟩

theorem Orderly.askedFor (orderly : Orderly store batch told start finish)
    (listed : call ∈ told.filterMap Happening.call?) :
    ∃ p r, batch.get? p = some r ∧ AskedFor r call := by
  obtain ⟨e, member, called⟩ := List.mem_filterMap.mp listed
  exact ⟨e.placeholder, e.reference, orderly.known e member, Happening.askedFor called⟩

theorem Orderly.asks (orderly : Orderly store batch told start finish) (known : batch.get? p = some r) :
    ∃ call ∈ told.filterMap Happening.call?, AskedFor r call := by
  obtain ⟨deed, member, call, called⟩ := (orderly.passed p r known).calls p
  obtain ⟨e, listed, same, rfl⟩ := mem_deeds_iff.mp member
  have reference := orderly.own known e listed same
  have seen : e.call? = some call := by
    obtain ⟨i, q, r', deed⟩ := e
    cases reference
    exact called
  exact ⟨call, List.mem_filterMap.mpr ⟨e, listed, seen⟩, reference ▸ Happening.askedFor seen⟩

theorem Orderly.proper_iff (orderly : Orderly store batch told start finish) :
    (∀ call ∈ told.filterMap Happening.call?, ∀ path, call.path? = some path → Proper path) ↔
      ∀ p r, batch.get? p = some r → clean r.storePath ≠ "" := by
  constructor
  · -- No fetch comes to its end without a call, so every reference shows in the calls.
    intro proper p r known
    obtain ⟨call, listed, asked⟩ := orderly.asks known
    obtain ⟨path, has, nonempty⟩ := asked.path
    exact nonempty.mp (proper call listed path has)
  · intro solid call listed path has
    obtain ⟨p, r, known, asked⟩ := orderly.askedFor listed
    obtain ⟨path', has', nonempty⟩ := asked.path
    cases has.symm.trans has'
    exact nonempty.mpr (solid p r known)

end

/-- What a resolution of extracted placeholders asks for is not empty and has no slash at either end, unless all
    placeholders can be read and the path of one is made of slashes. -/
theorem resolve_asks_proper_paths {σ : Type} (store : Store σ) (limit : Nat) (schedule : List Nat) {template : Bytes}
    {placeholders : List String} (extracted : ∀ p ∈ placeholders, p ∈ Placeholder.find template) (s : Session σ) :
    (∀ p ∈ placeholders, ∀ r, Reference.parse p = .ok r → (clean r.storePath = "" ↔ Slashes r.storePath)) ∧
    ∃ asked, (resolve store limit schedule placeholders s).2.calls = s.calls ++ asked ∧
      (∀ call ∈ asked, ∃ p ∈ placeholders, ∃ r path, Reference.parse p = .ok r ∧ AskedFor r call ∧
        call.path? = some path ∧ (Proper path ↔ ¬ Slashes r.storePath)) ∧
      ((∀ call ∈ asked, ∀ path, call.path? = some path → Proper path) ↔
        (∃ p ∈ placeholders, ∀ r, Reference.parse p ≠ .ok r) ∨
          ∀ p ∈ placeholders, ∀ r, Reference.parse p = .ok r → ¬ Slashes r.storePath) := by
  have cleaned (p : String) (member : p ∈ placeholders) (r : Reference) (parsed : Reference.parse p = .ok r) :=
    Placeholder.clean_eq_empty_iff (extracted p member) parsed
  refine ⟨cleaned, ?_⟩
  cases read : Batch.ofPlaceholders placeholders with
  | error cause =>
    obtain ⟨p, member, fault, malformed, -⟩ := Batch.ofPlaceholders_eq_error read
    have unread : ∃ p ∈ placeholders, ∀ r, Reference.parse p ≠ .ok r := by
      refine ⟨p, member, fun r parsed => ?_⟩
      cases malformed.symm.trans parsed
    refine ⟨[], ?_, by simp, iff_of_true (by simp) (.inl unread)⟩
    rw [calls_of_unread store limit schedule read, List.append_nil]
  | ok batch =>
    obtain ⟨whole, -, calls, -, orderly⟩ := resolve_orderly store limit schedule read s
    have known := Batch.get?_ofPlaceholders read
    refine ⟨_, calls, fun call listed => ?_, ?_⟩
    · obtain ⟨p, r, entry, asked⟩ := orderly.askedFor listed
      obtain ⟨member, parsed⟩ := (known p r).mp entry
      obtain ⟨path, has, proper⟩ := asked.path
      exact ⟨p, member, r, path, parsed, asked, has, proper.trans (cleaned p member r parsed).not⟩
    · rw [orderly.proper_iff]
      constructor
      · intro solid
        refine .inr fun p member r parsed slashes => ?_
        exact solid p r ((known p r).mpr ⟨member, parsed⟩) ((cleaned p member r parsed).mpr slashes)
      · rintro (⟨p, member, unread⟩ | solid) q r entry empty
        · obtain ⟨r', parsed⟩ := Batch.readable_of_ofPlaceholders read p member
          exact unread r' parsed
        · obtain ⟨member, parsed⟩ := (known q r).mp entry
          exact solid q member r parsed ((cleaned q member r parsed).mp empty)

theorem resolve_asks_proper_paths_slashes :
    let template := Text.Utf8.encode "{{ /kv/x/!k }}, {{//!k}}"
    let placeholders := ["{{ /kv/x/!k }}", "{{//!k}}"]
    (∀ p ∈ placeholders, p ∈ Placeholder.find template) ∧
    (∀ p ∈ placeholders, ∀ r, Reference.parse p = .ok r → (clean r.storePath = "" ↔ Slashes r.storePath)) ∧
    let s : Session Nat := ⟨0, []⟩
    ∃ asked, (resolve turning 2 [1, 0, 1] placeholders s).2.calls = s.calls ++ asked ∧
      (∀ call ∈ asked, ∃ p ∈ placeholders, ∃ r path, Reference.parse p = .ok r ∧ AskedFor r call ∧
        call.path? = some path ∧ (Proper path ↔ ¬ Slashes r.storePath)) ∧
      ((∀ call ∈ asked, ∀ path, call.path? = some path → Proper path) ↔
        (∃ p ∈ placeholders, ∀ r, Reference.parse p ≠ .ok r) ∨
          ∀ p ∈ placeholders, ∀ r, Reference.parse p = .ok r → ¬ Slashes r.storePath) := by
  intro template placeholders
  have extracted : ∀ p ∈ placeholders, p ∈ Placeholder.find template := by decide +kernel
  exact ⟨extracted, resolve_asks_proper_paths turning 2 [1, 0, 1] extracted ⟨0, []⟩⟩

/-- A path of slashes is accepted, and the store is asked for nothing at all. -/
theorem resolve_asks_for_nothing :
    "{{ /!k }}" ∈ Placeholder.find (Text.Utf8.encode "{{ /!k }}") ∧
      Reference.parse "{{ /!k }}" = .ok ⟨"/", "k", "", ""⟩ ∧ clean "/" = "" ∧
      (resolve turning 1 [] ["{{ /!k }}"] ⟨1, []⟩).2.calls = [.mountVersion "", .read ""] ∧
      (resolve turning 1 [] ["{{ /!k }}"] ⟨0, []⟩).2.calls = [.mountVersion "", .read "/data"] := by
  decide +kernel

end Resolution

end SecretTemplate
