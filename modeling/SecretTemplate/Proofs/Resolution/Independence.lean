import SecretTemplate.Proofs.Resolution.FixedAnswers

namespace SecretTemplate.Resolution

open Engine (Shape ShapeFrom ownShape cellOf)

variable {σ : Type} {versions : String → Except StoreError (Option String)}
  {documents : String → Except StoreError (Option Json)}

/-- What is seen of a placeholder: its final value, and the failure of its fetch if there is one. -/
def about (resolution : Resolution) (placeholder : String) : Option String × Option Failure :=
  ((resolution.batch.get? placeholder).map (·.value), resolution.failures.get? placeholder)

def seen (r : Reference) (outcome : Outcome) : Option String × Option Failure :=
  (some (settle r outcome).value, cause? outcome)

theorem about_settled {batch : Batch} {ends : List (String × Outcome)} {placeholder : String} {r : Reference}
    {outcome : Outcome} (known : batch.get? placeholder = some r) (ended : lookup placeholder ends = some outcome) :
    (settled batch ends).about placeholder = seen r outcome := by
  unfold about
  rw [get?_settled, failure_settled, known, ended]
  rfl

theorem about_resolve {store : Store σ} (fixed : store.Fixed versions documents) {placeholders : List String}
    {batch : Batch} (read : Batch.ofPlaceholders placeholders = .ok batch) {p : String} {r : Reference}
    (known : batch.get? p = some r) (limit : Nat) (schedule : List Nat) (s : Session σ) :
    ∃ resolution outcome, (resolve store limit schedule placeholders s).1 = .ok resolution ∧
      OutcomeFrom versions documents batch.values r outcome ∧ resolution.about p = seen r outcome := by
  obtain ⟨s', resolved⟩ := resolve_of_readable store limit schedule read s
  obtain ⟨ends, whole, related⟩ := resolveBatch_fixed fixed limit schedule batch s'
  obtain ⟨outcome, ended, found⟩ := related.lookup known
  refine ⟨_, outcome, resolved, found, ?_⟩
  rw [whole, about_settled known ended]

theorem OutcomeFrom.own_or_shared {references : List Reference} {r : Reference} {outcome : Outcome}
    (found : OutcomeFrom versions documents references r outcome) :
    outcome = ownOutcome versions documents r ∨
      ∃ other ∈ references, ∃ shape, cellOf other.storePath = cellOf r.storePath ∧
        ownShape versions other.storePath = .ok shape ∧ ownShape versions r.storePath ≠ .ok shape ∧
        outcome = outcomeUnder documents r (.ok shape) := by
  obtain ⟨result, source, rfl⟩ := found
  cases source with
  | own => exact .inl rfl
  | @shared path shape member mount known =>
    by_cases own : ownShape versions r.storePath = .ok shape
    · left
      rw [ownOutcome, own]
    · right
      obtain ⟨other, listed, rfl⟩ := List.mem_map.mp member
      exact ⟨other, listed, shape, mount, known, own, rfl⟩

theorem mem_values {batch : Batch} {r : Reference} (h : r ∈ batch.values) : ∃ p, batch.get? p = some r := by
  obtain ⟨⟨p, _⟩, member, rfl⟩ := List.mem_map.mp h
  exact ⟨p, Keyed.get?_eq_some_iff.mpr member⟩

/-- In a batch a reference is seen as it is on its own, or as it is under the shape that the store gives to
    another path of its mount and not to its own. -/
theorem resolve_independent {store : Store σ} (fixed : store.Fixed versions documents) {placeholders : List String}
    (readable : ∀ p ∈ placeholders, ∃ r, Reference.parse p = .ok r) {p : String} (member : p ∈ placeholders)
    (limit limit' : Nat) (schedule schedule' : List Nat) (s s' : Session σ) :
    ∃ r whole alone, Reference.parse p = .ok r ∧
      (resolve store limit schedule placeholders s).1 = .ok whole ∧
      (resolve store limit' schedule' [p] s').1 = .ok alone ∧
      (whole.about p = alone.about p ∨
        ∃ q ∈ placeholders, ∃ other shape, Reference.parse q = .ok other ∧
          cellOf other.storePath = cellOf r.storePath ∧ ownShape versions other.storePath = .ok shape ∧
          ownShape versions r.storePath ≠ .ok shape ∧
          whole.about p = seen r (outcomeUnder documents r (.ok shape))) := by
  obtain ⟨r, parsed⟩ := readable p member
  obtain ⟨batch, read⟩ := Batch.ofPlaceholders_of_readable readable
  have known : batch.get? p = some r := (Batch.get?_ofPlaceholders read p r).mpr ⟨member, parsed⟩
  have single : ∀ q ∈ [p], ∃ r, Reference.parse q = .ok r := by
    intro q same
    cases List.mem_singleton.mp same
    exact ⟨r, parsed⟩
  obtain ⟨batch', read'⟩ := Batch.ofPlaceholders_of_readable single
  have known' : batch'.get? p = some r :=
    (Batch.get?_ofPlaceholders read' p r).mpr ⟨List.mem_singleton_self p, parsed⟩
  obtain ⟨whole, outcome, resolved, found, here⟩ := about_resolve fixed read known limit schedule s
  obtain ⟨alone, outcome', resolved', found', there⟩ := about_resolve fixed read' known' limit' schedule' s'
  -- On its own a reference shares its mount with nothing but itself.
  have own : outcome' = ownOutcome versions documents r := by
    rcases found'.own_or_shared with own | ⟨other, listed, shape, -, answer, different, -⟩
    · exact own
    · obtain ⟨q, entry⟩ := mem_values listed
      obtain ⟨same, parsed'⟩ := (Batch.get?_ofPlaceholders read' q other).mp entry
      cases List.mem_singleton.mp same
      cases parsed.symm.trans parsed'
      exact (different answer).elim
  refine ⟨r, whole, alone, parsed, resolved, resolved', ?_⟩
  rcases found.own_or_shared with same | ⟨other, listed, shape, mount, answer, different, under⟩
  · left
    rw [here, there, own, same]
  · right
    obtain ⟨q, entry⟩ := mem_values listed
    obtain ⟨inList, parsed'⟩ := (Batch.get?_ofPlaceholders read q other).mp entry
    exact ⟨q, inList, other, shape, parsed', mount, answer, different, by rw [here, under]⟩

/-- A store that gives the version of every path on its own, also for two paths of one mount. -/
def splitMount : Store Unit :=
  .ofAnswers
    (fun path =>
      if path = "secret/a" then .ok (some "1") else if path = "secret/b" then .ok (some "2") else .error .notFound)
    (fun path =>
      if path = "secret/a" then .ok (some (.object [("k", .string "a")]))
      else if path = "secret/b" then .ok (some (.object [("k", .string "flat")]))
      else if path = "secret/data/b" then .ok (some (.object [("data", .object [("k", .string "enveloped")])]))
      else .ok none)

theorem resolve_independent_splitMount :
    ∃ r whole alone, Reference.parse "secret/b!k" = .ok r ∧
      (resolve splitMount 4 [1, 0] ["secret/a!k", "secret/b!k"] ⟨(), []⟩).1 = .ok whole ∧
      (resolve splitMount 1 [] ["secret/b!k"] ⟨(), []⟩).1 = .ok alone ∧
      (whole.about "secret/b!k" = alone.about "secret/b!k" ∨
        ∃ q ∈ ["secret/a!k", "secret/b!k"], ∃ other shape, Reference.parse q = .ok other ∧
          cellOf other.storePath = cellOf r.storePath ∧
          ownShape (fun path => (splitMount.mountVersion path ()).answer) other.storePath = .ok shape ∧
          ownShape (fun path => (splitMount.mountVersion path ()).answer) r.storePath ≠ .ok shape ∧
          whole.about "secret/b!k" =
            seen r (outcomeUnder (fun path => (splitMount.read path ()).answer) r (.ok shape))) := by
  refine resolve_independent (Store.ofAnswers_fixed _ _) ?_ (by simp) 4 1 [1, 0] [] ⟨(), []⟩ ⟨(), []⟩
  intro p member
  simp only [List.mem_cons, List.not_mem_nil, or_false] at member
  rcases member with rfl | rfl
  · exact ⟨_, rfl⟩
  · exact ⟨_, rfl⟩

/-- A reference is read under the shape of another path of its mount if that one was asked for first. -/
theorem resolve_shared_shape :
    (∃ versions documents, splitMount.Fixed versions documents) ∧
    ∃ whole alone,
      (resolve splitMount 1 [] ["secret/a!k", "secret/b!k"] ⟨(), []⟩).1 = .ok whole ∧
      (resolve splitMount 1 [] ["secret/b!k"] ⟨(), []⟩).1 = .ok alone ∧
      whole.about "secret/b!k" = (some "flat", none) ∧ alone.about "secret/b!k" = (some "enveloped", none) := by
  refine ⟨⟨_, _, Store.ofAnswers_fixed _ _⟩, _, _, rfl, rfl, ?_, ?_⟩
  · decide +kernel
  · decide +kernel

end SecretTemplate.Resolution
