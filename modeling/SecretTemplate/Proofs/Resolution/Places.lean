import SecretTemplate.Proofs.Engine.Paths
import SecretTemplate.Proofs.Placeholder.Tokens
import SecretTemplate.Proofs.Resolution.Reads

namespace SecretTemplate.Resolution

open Engine (Shape Lookups clean mount dataPath cellOf)
open Text.Utf8 (Bytes)

def Deed.shape? : Deed → Option Shape
  | .looked deed => deed.shape?
  | _ => none

/-- The fetch of a placeholder gets a shape for the mount of its reference. -/
def Classified (told : List Happening) (p : String) (shape : Shape) : Prop :=
  ∃ e ∈ told, e.placeholder = p ∧ e.deed.shape? = some shape

/-- What the fetch of a placeholder reads. -/
def readsOf (told : List Happening) (p : String) : List Call :=
  ((told.filter (·.placeholder = p)).filterMap Happening.call?).filter Call.isRead

/-- References whose mounts were classified are read apart, unless they are of one document. -/
structure ReadApart (batch : Batch) (told : List Happening) : Prop where
  place : ∀ {p : String} {r : Reference} {shape : Shape}, batch.get? p = some r → Classified told p shape →
    readsOf told p = [.read (shape.readPath r.storePath)]
  unread : ∀ {p : String} {r : Reference}, batch.get? p = some r → (∀ shape, ¬ Classified told p shape) →
    readsOf told p = []
  uniform : ∀ {p q : String} {r r' : Reference} {shape shape' : Shape}, batch.get? p = some r → batch.get? q = some r' →
    Classified told p shape → Classified told q shape' → mount r.storePath = mount r'.storePath → shape = shape'
  apart : ∀ {p q : String} {r r' : Reference} {shape shape' : Shape}, batch.get? p = some r → batch.get? q = some r' →
    Classified told p shape → Classified told q shape' →
    (readsOf told p = readsOf told q ↔ clean r.storePath = clean r'.storePath)

section

variable {p q : String} {r r' : Reference} {shape shape' : Shape} {told : List Happening} {batch : Batch}

theorem Passed.reads {deeds : List Deed} (passed : Passed r deeds) (p : String) :
    (deeds.filterMap fun deed => (Happening.mk 0 p r deed).call?).filter Call.isRead =
      (deeds.filterMap Deed.shape?).map fun shape => .read (shape.readPath r.storePath) := by
  cases passed with
  | refused => rfl
  | asked => rfl
  | shared => rfl

theorem Passed.shape_unique {deeds : List Deed} (passed : Passed r deeds) {deed : Deed} (member : deed ∈ deeds)
    (gets : deed.shape? = some shape) : deeds.filterMap Deed.shape? = [shape] := by
  have listed : shape ∈ deeds.filterMap Deed.shape? := List.mem_filterMap.mpr ⟨deed, member, gets⟩
  cases passed with
  | refused => cases listed
  | @asked answer own =>
    have same : shape ∈ [own] := listed
    rw [List.mem_singleton.mp same]
    rfl
  | shared own =>
    have same : shape ∈ [own] := listed
    rw [List.mem_singleton.mp same]
    rfl

theorem readsOf_eq (passed : Passed r ((told.filter (·.placeholder = p)).map (·.deed)))
    (own : ∀ e ∈ told, e.placeholder = p → e.reference = r) :
    readsOf told p = (((told.filter (·.placeholder = p)).map (·.deed)).filterMap Deed.shape?).map fun shape =>
      .read (shape.readPath r.storePath) := by
  rw [← passed.reads p, readsOf, filterMap_deeds Happening.call? (fun _ _ => rfl) own]

theorem mem_deeds_iff {deed : Deed} :
    deed ∈ (told.filter (·.placeholder = p)).map (·.deed) ↔ ∃ e ∈ told, e.placeholder = p ∧ e.deed = deed := by
  simp [and_assoc]

theorem Classified.at_mount (classified : Classified told p shape)
    (own : ∀ e ∈ told, e.placeholder = p → e.reference = r) :
    ∃ h ∈ Lookups.atMount (cellOf r.storePath) (told.filterMap Happening.lookup?), h.deed.shape? = some shape := by
  obtain ⟨e, member, same, gets⟩ := classified
  unfold Deed.shape? at gets
  split at gets
  · rename_i deed looked
    have seen : e.lookup? = some ⟨e.fetch, r.storePath, deed⟩ := by
      rw [Happening.lookup?, looked, own e member same]
    exact ⟨_, Lookups.mem_atMount (List.mem_filterMap.mpr ⟨e, member, seen⟩) rfl, gets⟩
  · cases gets

end

theorem Orderly.readApart {σ : Type} {store : Store σ} {batch : Batch} {told : List Happening} {start finish : σ}
    {lookups : Lookups σ} (orderly : Orderly store batch told start finish)
    (inTurns : lookups.InTurns (told.filterMap Happening.lookup?))
    (unblank : ∀ p r, batch.get? p = some r → ∀ c ∈ r.storePath.toList, Text.isBlank c = false) :
    ReadApart batch told := by
  have place {p : String} {r : Reference} {shape : Shape} (known : batch.get? p = some r)
      (classified : Classified told p shape) : readsOf told p = [.read (shape.readPath r.storePath)] := by
    obtain ⟨e, member, same, gets⟩ := classified
    have passed := orderly.passed p r known
    rw [readsOf_eq passed (orderly.own known), passed.shape_unique (mem_deeds_iff.mpr ⟨e, member, same, rfl⟩) gets]
    rfl
  have uniform {p q : String} {r r' : Reference} {shape shape' : Shape} (known : batch.get? p = some r)
      (known' : batch.get? q = some r') (classified : Classified told p shape) (classified' : Classified told q shape')
      (mounts : mount r.storePath = mount r'.storePath) : shape = shape' := by
    obtain ⟨h, member, gets⟩ := classified.at_mount (orderly.own known)
    obtain ⟨h', member', gets'⟩ := classified'.at_mount (orderly.own known')
    -- Paths of extracted placeholders hold no white space, so the cell of a path is that of its first segment.
    rw [Engine.cellOf_of_unblank (unblank p r known)] at member
    rw [Engine.cellOf_of_unblank (unblank q r' known'), ← mounts] at member'
    have first := (inTurns.turns _).known_of_shape? member gets
    have second := (inTurns.turns _).known_of_shape? member' gets'
    exact Engine.Cell.known.inj (first.symm.trans second)
  refine ⟨place, ?_, uniform, ?_⟩
  · intro p r known unclassified
    rw [readsOf_eq (orderly.passed p r known) (orderly.own known), List.map_eq_nil_iff, List.filterMap_eq_nil_iff]
    intro deed member
    obtain ⟨e, listed, same, rfl⟩ := mem_deeds_iff.mp member
    cases gets : e.deed.shape? with
    | none => rfl
    | some shape => cases unclassified shape ⟨e, listed, same, gets⟩
  · intro p q r r' shape shape' known known' classified classified'
    have shapes := uniform known known' classified classified'
    rw [place known classified, place known' classified', ← Engine.readPath_eq_iff shapes, List.cons.injEq,
      Call.read.injEq, and_iff_left rfl]

/-- Whatever the store answers, and in whatever order the fetches take their steps, the references of a template are
    read apart. -/
theorem resolve_reads_apart {σ : Type} (store : Store σ) (limit : Nat) (schedule : List Nat)
    {template : Bytes} {placeholders : List String} (extracted : ∀ p ∈ placeholders, p ∈ Placeholder.find template)
    {batch : Batch} (read : Batch.ofPlaceholders placeholders = .ok batch) (s : Session σ) :
    (∀ path path', dataPath path = dataPath path' ↔ clean path = clean path') ∧
    ∃ whole, schedule <+: whole ∧
      let told := (Progress.first store limit batch (s.log (Batch.read placeholders).events)).history store whole
      let resolved := resolve store limit schedule placeholders s
      resolved.2.calls = s.calls ++ told.filterMap Happening.call? ∧
      resolved.1 = .ok (ofOutcomes batch (told.filterMap Happening.outcome?)) ∧
      Orderly store batch told s.state resolved.2.state ∧ ReadApart batch told := by
  refine ⟨fun path path' => Engine.dataPath_eq_iff, ?_⟩
  obtain ⟨whole, longer, calls, result, orderly⟩ := resolve_orderly store limit schedule read s
  have recorded := Progress.recorded_history store batch limit (s.log (Batch.read placeholders).events) whole
  have unblank (p : String) (r : Reference) (known : batch.get? p = some r) :
      ∀ c ∈ r.storePath.toList, Text.isBlank c = false := by
    obtain ⟨listed, parsed⟩ := (Batch.get?_ofPlaceholders read p r).mp known
    intro c inside
    exact (Placeholder.isTokenChar_iff.mp (Placeholder.storePath_of_mem_find (extracted p listed) parsed c inside)).1
  exact ⟨whole, longer, calls, result, orderly, orderly.readApart recorded.inTurns unblank⟩

/-- A store that takes every mount for an enveloped one when it is asked first, and for a flat one after that. -/
def turning : Store Nat where
  name := "turning"
  authenticate _ n := ⟨.ok (), [], n⟩
  mountVersion _ n := ⟨.ok (some (if n = 0 then "2" else "1")), [], n + 1⟩
  read _ n := ⟨.ok none, [], n⟩

theorem resolve_reads_apart_turning :
    let template := Text.Utf8.encode "{{ kv/x!k }}, {{kv/data/x!k}}, {{ /kv/x/!l }}"
    let placeholders := ["{{ kv/x!k }}", "{{kv/data/x!k}}", "{{ /kv/x/!l }}"]
    (∀ p ∈ placeholders, p ∈ Placeholder.find template) ∧
    ∃ batch, Batch.ofPlaceholders placeholders = .ok batch ∧
      (∀ path path', dataPath path = dataPath path' ↔ clean path = clean path') ∧
      ∃ whole, [2, 1, 0, 2, 1] <+: whole ∧
        let s : Session Nat := ⟨0, []⟩
        let told := (Progress.first turning 2 batch (s.log (Batch.read placeholders).events)).history turning whole
        let resolved := resolve turning 2 [2, 1, 0, 2, 1] placeholders s
        resolved.2.calls = s.calls ++ told.filterMap Happening.call? ∧
        resolved.1 = .ok (ofOutcomes batch (told.filterMap Happening.outcome?)) ∧
        Orderly turning batch told s.state resolved.2.state ∧ ReadApart batch told := by
  intro template placeholders
  have extracted : ∀ p ∈ placeholders, p ∈ Placeholder.find template := by decide +kernel
  have readable : ∀ p ∈ placeholders, ∃ r, Reference.parse p = .ok r := by
    intro p member
    simp only [placeholders, List.mem_cons, List.not_mem_nil, or_false] at member
    rcases member with rfl | rfl | rfl
    · exact ⟨_, rfl⟩
    · exact ⟨_, rfl⟩
    · exact ⟨_, rfl⟩
  obtain ⟨batch, read⟩ := Batch.ofPlaceholders_of_readable readable
  exact ⟨extracted, batch, read, resolve_reads_apart turning 2 [2, 1, 0, 2, 1] extracted read ⟨0, []⟩⟩

example :
    (resolve turning 1 [] ["{{ kv/x!k }}", "{{kv/data/x!k}}", "{{ /kv/x/!l }}"] ⟨0, []⟩).2.calls =
      [.mountVersion "kv/x", .read "kv/data/x", .read "kv/data/x", .read "kv/data/data/x"] := by
  decide +kernel

end SecretTemplate.Resolution
