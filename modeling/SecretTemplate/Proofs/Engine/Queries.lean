import SecretTemplate.Proofs.Engine.History
import SecretTemplate.Proofs.Resolution.Traces

namespace SecretTemplate

namespace Engine

namespace Happening

def IsOpen (e : Happening) : Prop := (∃ answer, e.deed = .asked answer) ∨ ∃ cause, e.deed = .failed cause

theorem IsOpen.not_success {e : Happening} (h : e.IsOpen) : e.isSuccess = false := by
  rcases h with ⟨answer, asked⟩ | ⟨cause, failed⟩
  · simp [isSuccess, asked]
  · simp [isSuccess, failed]

end Happening

def Deed.shape? : Deed → Option Shape
  | .asked _ => none
  | .failed _ => none
  | .found shape => some shape
  | .reused shape => some shape

namespace Lookups

variable {σ : Type} {answers : Answers} {paths : List String} {store : Store σ} {m m' : Lookups σ} {i : Nat}
  {told : List Happening}

inductive Shared : Cell → List Happening → Prop
  | vacant : Shared .vacant []
  | asking : Shared .asking []
  | known {e : Happening} {after : List Happening} {shape : Shape} (found : e.deed = .found shape)
      (reused : ∀ later ∈ after, later.deed = .reused shape) : Shared (.known shape) (e :: after)

theorem Turns.cut {cell : Cell} (turns : Turns cell told) :
    ∃ before rest, told = before ++ rest ∧ (∀ e ∈ before, e.IsOpen) ∧ Shared cell rest := by
  induction turns with
  | nil => exact ⟨[], [], rfl, by simp, .vacant⟩
  | ask _ i path answer ih =>
    obtain ⟨before, rest, rfl, isOpen, shared⟩ := ih
    cases shared
    refine ⟨before ++ [⟨i, path, .asked answer⟩], [], by simp, ?_, .asking⟩
    intro e member
    rcases List.mem_append.mp member with member | member
    · exact isOpen e member
    · cases List.mem_singleton.mp member
      exact .inl ⟨answer, rfl⟩
  | answer _ i path answer ih =>
    obtain ⟨before, rest, rfl, isOpen, shared⟩ := ih
    cases shared
    have asked : ∀ e ∈ before ++ [⟨i, path, .asked answer⟩], e.IsOpen := by
      intro e member
      rcases List.mem_append.mp member with member | member
      · exact isOpen e member
      · cases List.mem_singleton.mp member
        exact .inl ⟨answer, rfl⟩
    cases classify (clean path) answer with
    | ok shape =>
      refine ⟨before ++ [⟨i, path, .asked answer⟩], [⟨i, path, .found shape⟩], by simp [Deed.ofResult], asked, ?_⟩
      exact .known rfl (by simp)
    | error cause =>
      refine ⟨before ++ [⟨i, path, .asked answer⟩] ++ [⟨i, path, .failed cause⟩], [], by simp [Deed.ofResult], ?_,
        .vacant⟩
      intro e member
      rcases List.mem_append.mp member with member | member
      · exact asked e member
      · cases List.mem_singleton.mp member
        exact .inr ⟨cause, rfl⟩
  | @reuse told shape _ i path ih =>
    obtain ⟨before, rest, rfl, isOpen, shared⟩ := ih
    cases shared with
    | @known e after _ found reused =>
      refine ⟨before, e :: after ++ [⟨i, path, .reused shape⟩], by simp, isOpen, .known found ?_⟩
      intro later member
      rcases List.mem_append.mp member with member | member
      · exact reused later member
      · cases List.mem_singleton.mp member
        rfl

theorem Turns.succeeds_once {cell : Cell} (turns : Turns cell told) : told.countP (·.isSuccess) ≤ 1 := by
  obtain ⟨before, rest, rfl, isOpen, shared⟩ := turns.cut
  have none : before.countP (·.isSuccess) = 0 := by
    rw [List.countP_eq_zero]
    intro e member
    simp [(isOpen e member).not_success]
  rw [List.countP_append, none, Nat.zero_add]
  cases shared with
  | vacant => exact Nat.zero_le 1
  | asking => exact Nat.zero_le 1
  | @known e after shape found reused =>
    have later : after.countP (·.isSuccess) = 0 := by
      rw [List.countP_eq_zero]
      intro e member
      simp [Happening.isSuccess, reused e member]
    rw [List.countP_cons, later]
    split <;> omega

theorem Turns.quiet {cell : Cell} (turns : Turns cell told) :
    told.Pairwise fun e later => e.isSuccess = true → later.isQuery = false := by
  obtain ⟨before, rest, rfl, isOpen, shared⟩ := turns.cut
  have unsuccessful : ∀ e ∈ before, e.isSuccess = true → False := by
    intro e member success
    rw [(isOpen e member).not_success] at success
    cases success
  refine List.pairwise_append.mpr ⟨?_, ?_, fun e member _ _ success => (unsuccessful e member success).elim⟩
  · exact List.pairwise_of_forall_mem_list fun e member _ _ success => (unsuccessful e member success).elim
  · cases shared with
    | vacant => exact .nil
    | asking => exact .nil
    | @known e after shape found reused =>
      have uses : ∀ later ∈ after, later.isQuery = false := by
        intro later member
        simp [Happening.isQuery, reused later member]
      refine List.pairwise_cons.mpr ⟨fun later member _ => uses later member, ?_⟩
      exact List.pairwise_of_forall_mem_list fun _ _ later member _ => uses later member

theorem Turns.found_of_reused {cell : Cell} {shape : Shape} (turns : Turns cell told)
    (reused : ∃ e ∈ told, e.deed = .reused shape) : ∃ e ∈ told, e.deed = .found shape := by
  obtain ⟨before, rest, rfl, isOpen, shared⟩ := turns.cut
  obtain ⟨e, member, uses⟩ := reused
  rcases List.mem_append.mp member with member | member
  · rcases isOpen e member with ⟨answer, asked⟩ | ⟨cause, failed⟩
    · cases uses.symm.trans asked
    · cases uses.symm.trans failed
  · cases shared with
    | vacant => cases member
    | asking => cases member
    | @known first after other found later =>
      refine ⟨first, List.mem_append_right _ (List.mem_cons_self ..), ?_⟩
      rcases List.mem_cons.mp member with rfl | member
      · cases uses.symm.trans found
      · cases uses.symm.trans (later e member)
        exact found

theorem Turns.known_of_shape? {cell : Cell} {shape : Shape} {e : Happening} (turns : Turns cell told)
    (member : e ∈ told) (gets : e.deed.shape? = some shape) : cell = .known shape := by
  obtain ⟨before, rest, rfl, isOpen, shared⟩ := turns.cut
  rcases List.mem_append.mp member with member | member
  · rcases isOpen e member with ⟨answer, asked⟩ | ⟨cause, failed⟩
    · rw [asked] at gets
      cases gets
    · rw [failed] at gets
      cases gets
  · cases shared with
    | vacant => cases member
    | asking => cases member
    | @known first after other found later =>
      rcases List.mem_cons.mp member with rfl | member
      · rw [found] at gets
        rw [Option.some.inj gets]
      · rw [later e member] at gets
        rw [Option.some.inj gets]

def isWaitingAt (mount : String) (l : Lookup) : Bool :=
  l.mount = mount &&
    match l.stage with
    | .waiting => true
    | _ => false

structure Recorded (answers : Answers) (paths : List String) (m : Lookups σ) (told : List Happening) : Prop where
  samePaths : m.lookups.map (·.path) = paths
  inTurns : m.InTurns told
  done : m.Done told
  placed : ∀ e ∈ told, paths[e.lookup]? = some e.path
  given : ∀ e ∈ told, ∀ answer, e.deed = .asked answer → answers.version (clean e.path) answer
  few : ∀ mount, (atMount mount told).countP (·.isQuery) + m.lookups.countP (isWaitingAt mount) ≤
    paths.countP fun path => cellOf path = mount

theorem Recorded.ofPaths (answers : Answers) (paths : List String) (session : Session σ) :
    (ofPaths paths session).Recorded answers paths [] where
  samePaths := (Told.ofPaths answers paths session).samePaths
  inTurns := by
    constructor
    · intro mount
      exact .nil
    · intro i l answer here asking
      cases (waiting_ofPaths here).symm.trans asking
  done := by
    intro i l here
    rw [waiting_ofPaths here]
    exact .nothing
  placed := by simp
  given := by simp
  few := by
    intro mount
    simp only [atMount, List.filter_nil, List.countP_nil, Nat.zero_add, Lookups.ofPaths, List.countP_map]
    refine List.countP_mono_left fun path _ waiting => ?_
    simp only [Function.comp_apply, isWaitingAt, Lookup.mount_eq_cellOf, Bool.and_eq_true] at waiting
    exact waiting.1

theorem countP_atMount_append (mount : String) (told : List Happening) (e : Happening) (p : Happening → Bool) :
    (atMount mount (told ++ [e])).countP p =
      (atMount mount told).countP p + if e.mount = mount ∧ p e = true then 1 else 0 := by
  by_cases same : e.mount = mount
  · rw [atMount_append_self told same, List.countP_append, List.countP_singleton]
    simp [same]
  · rw [atMount_append_ne told same]
    simp [same]

theorem isWaitingAt_waiting {mount : String} {l : Lookup} (waiting : l.stage = .waiting) :
    isWaitingAt mount l = true ↔ l.mount = mount := by
  simp [isWaitingAt, waiting]

theorem isWaitingAt_settled (mount : String) (l : Lookup) (result : Except Failure Shape) :
    isWaitingAt mount { l with stage := .settled result } = false := by
  simp [isWaitingAt]

theorem isWaitingAt_asking (mount : String) (l : Lookup) (answer : Except StoreError (Option String)) :
    isWaitingAt mount { l with stage := .asking answer } = false := by
  simp [isWaitingAt]

theorem Seen.few {e : Happening} (seen : Seen store m i m' e) (mount : String) :
    (atMount mount (told ++ [e])).countP (·.isQuery) + m'.lookups.countP (isWaitingAt mount) ≤
      (atMount mount told).countP (·.isQuery) + m.lookups.countP (isWaitingAt mount) := by
  rw [countP_atMount_append]
  cases seen with
  | @reuse l shape here waiting known =>
    have counted := countP_modify here (fun l => { l with stage := .settled (.ok shape) }) (isWaitingAt mount)
    simp only [isWaitingAt_settled, Bool.false_eq_true, if_false] at counted
    simp only [Happening.isQuery, Bool.false_eq_true, and_false, if_false, setStage]
    omega
  | @ask l here waiting vacant =>
    have counted := countP_modify here
      (fun l' => { l' with stage := .asking (m.session.mountVersion store l.query).1 }) (isWaitingAt mount)
    simp only [isWaitingAt_asking, Bool.false_eq_true, if_false, isWaitingAt_waiting waiting] at counted
    simp only [Happening.isQuery, and_true, asked, setStage, setCell, Happening.mount, ← Lookup.mount_eq_cellOf]
    omega
  | @settle l answer here asking =>
    have counted := countP_modify here (fun l' => { l' with stage := .settled (classify l.query answer) })
      (isWaitingAt mount)
    simp only [isWaitingAt_settled, Bool.false_eq_true, if_false] at counted
    have other : (Happening.mk i l.path (.ofResult (classify l.query answer))).isQuery = false := by
      cases classify l.query answer <;> rfl
    simp only [other, Bool.false_eq_true, and_false, if_false, answered, setStage, setCell]
    omega

theorem Recorded.step {e : Happening} (recorded : m.Recorded answers paths told)
    (gives : store.Gives answers m.session.state) (seen : Seen store m i m' e) :
    m'.Recorded answers paths (told ++ [e]) where
  samePaths := by
    obtain ⟨stage, lookups⟩ := seen.step.lookups
    rw [lookups, paths_setStage]
    exact recorded.samePaths
  inTurns := recorded.inTurns.step seen
  done := recorded.done.step seen
  placed := by
    intro e' member
    rcases List.mem_append.mp member with member | member
    · exact recorded.placed e' member
    · obtain ⟨l, here, lookup, path⟩ := seen.lookup
      cases List.mem_singleton.mp member
      rw [lookup, path, ← recorded.samePaths, List.getElem?_map, here]
      rfl
  given := by
    intro e' member answer asked
    rcases List.mem_append.mp member with member | member
    · exact recorded.given e' member answer asked
    · cases List.mem_singleton.mp member
      cases seen with
      | reuse => cases asked
      | @ask l here waiting vacant =>
        cases asked
        exact gives.mountVersion l.query
      | @settle l answer' here asking =>
        cases Deed.ofResult_ne_asked _ _ asked
  few := fun mount => Nat.le_trans (seen.few mount) (recorded.few mount)

def answersOn (store : Store σ) (m : Lookups σ) (schedule : List Nat) : Answers :=
  .along store (fun steps => (m.run store steps).session.state) schedule

theorem recorded_history (store : Store σ) (paths : List String) (s : Session σ) (schedule : List Nat) :
    ((ofPaths paths s).run store schedule).Recorded ((ofPaths paths s).answersOn store schedule) paths
      (history store (ofPaths paths s) schedule) :=
  history_induction happening?_self (step_eq_or_seen store) schedule (.ofPaths _ paths s)
    fun passed recorded seen => recorded.step (Answers.gives_along passed) seen

theorem Recorded.lookup_at {path : String} (recorded : m.Recorded answers paths told) (here : paths[i]? = some path) :
    ∃ l, m.lookups[i]? = some l ∧ l.path = path := by
  rw [← recorded.samePaths, List.getElem?_map, Option.map_eq_some_iff] at here
  exact here

theorem Recorded.own_atMount {path : String} (recorded : m.Recorded answers paths told) (here : paths[i]? = some path) :
    (atMount (cellOf path) told).filter (·.lookup = i) = told.filter (·.lookup = i) := by
  rw [atMount, List.filter_filter]
  refine List.filter_congr fun e member => ?_
  by_cases mine : e.lookup = i
  · have place := recorded.placed e member
    rw [mine, here, Option.some.injEq] at place
    simp [mine, Happening.mount, place]
  · simp [mine]

theorem Recorded.ended {e : Happening} {result : Except Failure Shape} (recorded : m.Recorded answers paths told)
    (member : e ∈ told) (ended : e.deed = .ofResult result) :
    m.result? e.lookup = some result ∧ ∃ answer,
      told.filter (·.lookup = e.lookup) = [⟨e.lookup, e.path, .asked answer⟩, e] ∧
      classify (clean e.path) answer = result := by
  obtain ⟨i, path, deed⟩ := e
  cases ended
  obtain ⟨l, there, rfl⟩ := recorded.lookup_at (recorded.placed _ member)
  have did := recorded.done i l there
  have mine : (⟨i, l.path, .ofResult result⟩ : Happening) ∈ told.filter (·.lookup = i) :=
    List.mem_filter.mpr ⟨member, decide_eq_true rfl⟩
  rw [result?_eq_some_iff]
  generalize told.filter (·.lookup = i) = events at did mine
  generalize at_l : l.stage = stage at did
  cases did with
  | nothing => cases mine
  | asked answer =>
    have same := List.mem_singleton.mp mine
    cases Deed.ofResult_ne_asked _ _ (Happening.mk.inj same).2.2
  | reused shape =>
    have same := List.mem_singleton.mp mine
    cases Deed.ofResult_ne_reused _ _ (Happening.mk.inj same).2.2
  | ended answer =>
    rcases List.mem_cons.mp mine with same | same
    · cases Deed.ofResult_ne_asked _ _ (Happening.mk.inj same).2.2
    · have same := List.mem_singleton.mp same
      cases Deed.ofResult_injective (Happening.mk.inj same).2.2
      exact ⟨⟨l, there, at_l⟩, answer, rfl, rfl⟩

theorem mem_atMount {mount : String} {e : Happening} (member : e ∈ told) (here : e.mount = mount) :
    e ∈ atMount mount told := List.mem_filter.mpr ⟨member, decide_eq_true here⟩

theorem Recorded.told_of_result {path : String} {result : Except Failure Shape}
    (recorded : m.Recorded answers paths told) (here : paths[i]? = some path) (known : m.result? i = some result) :
    ⟨i, path, .ofResult result⟩ ∈ told ∨ ∃ shape, result = .ok shape ∧ ⟨i, path, .reused shape⟩ ∈ told := by
  obtain ⟨l, there, rfl⟩ := recorded.lookup_at here
  obtain ⟨l', there', settled⟩ := result?_eq_some_iff.mp known
  cases there.symm.trans there'
  have did := recorded.done i l there
  rw [settled] at did
  have within {e : Happening} (mine : e ∈ told.filter (·.lookup = i)) : e ∈ told := (List.mem_filter.mp mine).1
  generalize told.filter (·.lookup = i) = events at did within
  cases did with
  | ended => exact .inl (within (List.mem_cons_of_mem _ (List.mem_singleton_self _)))
  | reused shape => exact .inr ⟨shape, rfl, within (List.mem_singleton_self _)⟩

theorem Recorded.result_error_iff {path : String} {cause : Failure} (recorded : m.Recorded answers paths told)
    (here : paths[i]? = some path) :
    m.result? i = some (.error cause) ↔ ⟨i, path, .failed cause⟩ ∈ atMount (cellOf path) told := by
  constructor
  · intro failed
    rcases recorded.told_of_result here failed with own | ⟨shape, wrong, -⟩
    · exact mem_atMount own rfl
    · cases wrong
  · intro failed
    exact (recorded.ended (List.mem_filter.mp failed).1 rfl).1

theorem Recorded.found_of_result_ok {path : String} {shape : Shape} (recorded : m.Recorded answers paths told)
    (here : paths[i]? = some path) (ok : m.result? i = some (.ok shape)) :
    ∃ e ∈ atMount (cellOf path) told, e.deed = .found shape := by
  rcases recorded.told_of_result here ok with own | ⟨known, same, reused⟩
  · exact ⟨_, mem_atMount own rfl, rfl⟩
  · cases same
    exact (recorded.inTurns.turns _).found_of_reused ⟨_, mem_atMount reused rfl, rfl⟩

theorem Recorded.not_query_of_reused {path : String} {shape : Shape} (recorded : m.Recorded answers paths told)
    (here : paths[i]? = some path) (reused : ⟨i, path, .reused shape⟩ ∈ told) :
    ∀ e ∈ told, e.lookup = i → e.isQuery = false := by
  intro e member same
  obtain ⟨l, there, rfl⟩ := recorded.lookup_at here
  have did := recorded.done i l there
  have mine : (⟨i, l.path, .reused shape⟩ : Happening) ∈ told.filter (·.lookup = i) :=
    List.mem_filter.mpr ⟨reused, decide_eq_true rfl⟩
  have inside : e ∈ told.filter (·.lookup = i) := List.mem_filter.mpr ⟨member, decide_eq_true same⟩
  generalize told.filter (·.lookup = i) = events at did mine inside
  generalize l.stage = stage at did
  cases did with
  | nothing => cases mine
  | asked answer => cases List.mem_singleton.mp mine
  | reused => exact congrArg Happening.isQuery (List.mem_singleton.mp inside)
  | ended answer =>
    rcases List.mem_cons.mp mine with wrong | wrong
    · cases wrong
    · cases Deed.ofResult_ne_reused _ _ (Happening.mk.inj (List.mem_singleton.mp wrong)).2.2.symm

theorem Recorded.query_of_result {path : String} {result : Except Failure Shape}
    (recorded : m.Recorded answers paths told) (here : paths[i]? = some path) (known : m.result? i = some result) :
    ∃ e ∈ told, ∃ answer, e.deed = .asked answer ∧ paths[e.lookup]? = some e.path ∧ cellOf e.path = cellOf path ∧
      ((∃ cause, result = .error cause) ∨ (∃ e ∈ told, e.lookup = i ∧ e.isQuery = true) → e.lookup = i) ∧
      answers.version (clean e.path) answer ∧ classify (clean e.path) answer = result := by
  have ended : ∃ e ∈ atMount (cellOf path) told, e.deed = .ofResult result ∧
      ((∃ cause, result = .error cause) ∨ (∃ e ∈ told, e.lookup = i ∧ e.isQuery = true) → e.lookup = i) := by
    rcases recorded.told_of_result here known with own | ⟨shape, rfl, reused⟩
    · exact ⟨_, mem_atMount own rfl, rfl, fun _ => rfl⟩
    · obtain ⟨e, member, found⟩ := recorded.found_of_result_ok here known
      refine ⟨e, member, found, ?_⟩
      rintro (⟨cause, wrong⟩ | ⟨mine, listed, same, query⟩)
      · cases wrong
      · cases (recorded.not_query_of_reused here reused mine listed same).symm.trans query
  obtain ⟨e, member, result, own⟩ := ended
  obtain ⟨listed, mount⟩ := List.mem_filter.mp member
  obtain ⟨-, answer, both, classified⟩ := recorded.ended listed result
  have asked : ⟨e.lookup, e.path, .asked answer⟩ ∈ told.filter (·.lookup = e.lookup) := by
    rw [both]
    exact List.mem_cons_self ..
  have query := (List.mem_filter.mp asked).1
  exact ⟨_, query, answer, rfl, recorded.placed _ query, of_decide_eq_true mount, own,
    recorded.given _ query answer rfl, classified⟩

/-- What one gets who looks a path up to read there: the shape of the mount and the path to read. -/
def readPath? (m : Lookups σ) (i : Nat) : Option (Except Failure (Shape × String)) :=
  match m.lookups[i]?, m.result? i with
  | some l, some result => some (result.map fun shape => (shape, shape.readPath l.path))
  | _, _ => none

theorem readPath?_eq {l : Lookup} (here : m.lookups[i]? = some l) :
    m.readPath? i = (m.result? i).map fun result => result.map fun shape => (shape, shape.readPath l.path) := by
  rw [readPath?, here]
  cases m.result? i <;> rfl

theorem readPath?_eq_ok {l : Lookup} {shape : Shape} {read : String} (here : m.lookups[i]? = some l)
    (ok : m.readPath? i = some (.ok (shape, read))) :
    m.result? i = some (.ok shape) ∧ read = shape.readPath l.path := by
  rw [readPath?_eq here] at ok
  obtain ⟨result, found, mapped⟩ := Option.map_eq_some_iff.mp ok
  cases result with
  | error cause => cases mapped
  | ok other =>
    cases mapped
    exact ⟨found, rfl⟩

theorem readPath?_eq_error {l : Lookup} {cause : Failure} (here : m.lookups[i]? = some l) :
    m.readPath? i = some (.error cause) ↔ m.result? i = some (.error cause) := by
  rw [readPath?_eq here]
  cases m.result? i with
  | none => simp
  | some result => cases result <;> simp [Except.map]

/-- What the calls on a mount can rely on when `told` is what happened there and `last` is how things stand. -/
structure OneAtATime (answers : Answers) (paths : List String) (mount : String) (last : Lookups σ)
    (told : List Happening) : Prop where
  single : ∀ {i j : Nat} {l l' : Lookup} {answer answer'}, last.lookups[i]? = some l → last.lookups[j]? = some l' →
    l.mount = mount → l'.mount = mount → l.stage = .asking answer → l'.stage = .asking answer' → i = j
  succeedsOnce : told.countP (·.isSuccess) ≤ 1
  quiet : told.Pairwise fun e later => e.isSuccess = true → later.isQuery = false
  shared : ∀ {i : Nat} {path : String}, paths[i]? = some path → cellOf path = mount →
    (∀ shape, last.result? i = some (.ok shape) → ∃ e ∈ told, e.deed = .found shape) ∧
    ∀ shape read, last.readPath? i = some (.ok (shape, read)) →
      read = shape.readPath path ∧ ∃ e ∈ told, e.deed = .found shape
  own : ∀ {i : Nat} {path : String} {cause : Failure}, paths[i]? = some path → cellOf path = mount →
    (last.result? i = some (.error cause) ↔ ⟨i, path, .failed cause⟩ ∈ told) ∧
    (last.readPath? i = some (.error cause) ↔ ⟨i, path, .failed cause⟩ ∈ told)
  asked : ∀ e ∈ told, ∀ answer, e.deed = .asked answer → answers.version (clean e.path) answer
  /-- A query that fails or names a shape is the only one of its call, and does so by the answer that it got. -/
  ended : ∀ e ∈ told, ∀ result, e.deed = .ofResult result →
    paths[e.lookup]? = some e.path ∧ ∃ answer,
      told.filter (·.lookup = e.lookup) = [⟨e.lookup, e.path, .asked answer⟩, e] ∧
      classify (clean e.path) answer = result
  few : told.countP (·.isQuery) ≤ paths.countP fun path => cellOf path = mount
  once : ∀ {i j : Nat} {path path' : String} {answer} {shape : Shape} {rest : List Happening},
    told = ⟨i, path, .asked answer⟩ :: ⟨j, path', .found shape⟩ :: rest → told.countP (·.isQuery) = 1

theorem Recorded.oneAtATime (recorded : m.Recorded answers paths told) (mount : String) :
    OneAtATime answers paths mount m (atMount mount told) where
  single := by
    intro i j l l' answer answer' here there first second asks asks'
    have mine := (recorded.inTurns.holder here asks).2
    have theirs := (recorded.inTurns.holder there asks').2
    rw [first] at mine
    rw [second, mine, Option.some.injEq, Happening.mk.injEq] at theirs
    exact theirs.1
  succeedsOnce := (recorded.inTurns.turns mount).succeeds_once
  quiet := (recorded.inTurns.turns mount).quiet
  shared := by
    rintro i path here rfl
    refine ⟨fun shape => recorded.found_of_result_ok here, fun shape read ok => ?_⟩
    obtain ⟨l, there, rfl⟩ := recorded.lookup_at here
    obtain ⟨result, same⟩ := readPath?_eq_ok there ok
    exact ⟨same, recorded.found_of_result_ok here result⟩
  own := by
    rintro i path cause here rfl
    obtain ⟨l, there, -⟩ := recorded.lookup_at here
    rw [readPath?_eq_error there]
    exact ⟨recorded.result_error_iff here, recorded.result_error_iff here⟩
  asked := by
    intro e member
    exact recorded.given e (List.mem_filter.mp member).1
  ended := by
    intro e member result ended
    obtain ⟨listed, same⟩ := List.mem_filter.mp member
    have place := recorded.placed e listed
    rw [← of_decide_eq_true same, Happening.mount, recorded.own_atMount place]
    exact ⟨place, (recorded.ended listed ended).2⟩
  few := Nat.le_trans (Nat.le_add_right ..) (recorded.few mount)
  once := by
    intro i j path path' answer shape rest whole
    have quiet := (recorded.inTurns.turns mount).quiet
    rw [whole, List.pairwise_cons, List.pairwise_cons] at quiet
    have none : rest.countP (·.isQuery) = 0 := by
      rw [List.countP_eq_zero]
      intro later member
      simp [quiet.2.1 later member rfl]
    rw [whole, List.countP_cons, List.countP_cons, none]
    rfl

theorem Seen.calls {e : Happening} (seen : Seen store m i m' e) :
    m'.session.calls = m.session.calls ++ e.call?.toList := by
  cases seen with
  | reuse => exact (List.append_nil _).symm
  | @ask l here => exact Session.calls_ask ..
  | @settle l answer here asking =>
    have silent : (Happening.mk i l.path (.ofResult (classify l.query answer))).call? = none := by
      cases classify l.query answer <;> rfl
    rw [silent, Option.toList_none, List.append_nil]
    exact Session.calls_log ..

theorem calls_run (store : Store σ) (m : Lookups σ) (schedule : List Nat) :
    (m.run store schedule).session.calls =
      m.session.calls ++ (history store m schedule).filterMap Happening.call? := by
  refine history_induction (motive := fun q told => q.session.calls = m.session.calls ++ told.filterMap Happening.call?)
    happening?_self (step_eq_or_seen store) schedule (List.append_nil _).symm ?_
  intro steps q i told e _ before seen
  rw [seen.calls, before, List.append_assoc, List.filterMap_append]
  congr 2

/-- Whatever the store answers and in whatever order the calls take their steps, the queries that reach the store
    are those that are seen, each for the path of its call, and at every mount they are made one at a time. -/
theorem queries_one_at_a_time (store : Store σ) (paths : List String) (s : Session σ) (schedule : List Nat) :
    let first := ofPaths paths s
    let last := first.run store schedule
    let told := history store first schedule
    last.session.calls = s.calls ++ told.filterMap Happening.call? ∧
      ∀ mount, OneAtATime (first.answersOn store schedule) paths mount last (atMount mount told) := by
  exact ⟨calls_run store (ofPaths paths s) schedule, (recorded_history store paths s schedule).oneAtATime⟩

end Lookups

end Engine

end SecretTemplate
