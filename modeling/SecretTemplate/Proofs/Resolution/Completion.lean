import SecretTemplate.Proofs.Resolution.StepsLeft

namespace SecretTemplate.Resolution

open Engine (Shape Lookup Lookups)

theorem Fetch.isRunning_iff {f : Fetch} : f.isRunning = true ↔ f.isQueued = false ∧ f.isFinished = false := by
  simp [Fetch.isRunning]

theorem Fetch.isRunning_of_classifying {f : Fetch} (h : f.stage = .classifying) : f.isRunning = true := by
  simp [isRunning, isQueued, isFinished, h]

theorem Fetch.isRunning_of_reading {f : Fetch} {shape : Shape} {answer : Except StoreError (Option Json)}
    (h : f.stage = .reading shape answer) : f.isRunning = true := by
  simp [isRunning, isQueued, isFinished, h]

namespace Progress

variable {σ : Type} {store : Store σ} {p p' : Progress σ} {i : Nat}

structure Live (p : Progress σ) : Prop where
  paired : p.lookups.lookups.length = p.fetches.length
  limited : 0 < p.limit
  inOrder : p.fetches.Pairwise fun f g => f.isQueued = true → g.isQueued = true
  bounded : p.fetches.countP (·.isRunning) ≤ p.limit
  held : p.lookups.Held
  askers : ∀ {i : Nat} {l : Lookup} {answer}, p.lookups.lookups[i]? = some l → l.stage = .asking answer →
    ∃ f, p.fetches[i]? = some f ∧ f.stage = .classifying

theorem Live.ofBatch (batch : Batch) (limit : Nat) (s : Session σ) : (ofBatch batch limit s).Live where
  paired := by simp [Progress.ofBatch]
  limited := by simp [Progress.ofBatch]
  inOrder := by
    have queued : ∀ f ∈ (Progress.ofBatch batch limit s).fetches, f.isQueued = true := by
      intro f member
      obtain ⟨e, _, rfl⟩ := List.mem_map.mp member
      rfl
    exact List.pairwise_of_forall_mem_list fun f _ g there _ => queued g there
  bounded := by
    have idle : (Progress.ofBatch batch limit s).fetches.countP (·.isRunning) = 0 := by
      rw [List.countP_eq_zero]
      intro f member
      obtain ⟨e, _, rfl⟩ := List.mem_map.mp member
      exact Bool.false_ne_true
    rw [idle]
    exact Nat.zero_le _
  held := by
    intro mount asking
    cases asking
  askers := by
    intro i l answer here asking
    obtain ⟨e, _, rfl⟩ := List.mem_map.mp (List.mem_of_getElem? here)
    cases asking

theorem Live.congr {session : Session σ} (live : p.Live) (fetches : p'.fetches = p.fetches)
    (limit : p'.limit = p.limit) (lookups : p'.lookups = { p.lookups with session }) : p'.Live := by
  constructor
  · rw [lookups, fetches]
    exact live.paired
  · rw [limit]
    exact live.limited
  · rw [fetches]
    exact live.inOrder
  · rw [fetches, limit]
    exact live.bounded
  · rw [lookups]
    exact live.held
  · intro i l answer
    rw [lookups, fetches]
    exact live.askers

theorem Live.move {f : Fetch} (live : p.Live) (stage : Stage) (here : p.fetches[i]? = some f)
    (first : ∀ g ∈ p.fetches.take i, g.isQueued = false)
    (room : f.isRunning = true ∨ p.fetches.countP (·.isRunning) < p.limit)
    (started : ({ f with stage } : Fetch).isQueued = false)
    (asks : ∀ l answer, p.lookups.lookups[i]? = some l → l.stage = .asking answer → stage = .classifying) :
    (p.setStage i stage).Live := by
  obtain ⟨before, after, whole, length, changed⟩ := modify_split here fun f => { f with stage }
  have fetches : (p.setStage i stage).fetches = before ++ { f with stage } :: after := changed
  have order := live.inOrder
  rw [whole, List.pairwise_append, List.pairwise_cons] at order
  obtain ⟨early, ⟨-, rest⟩, -⟩ := order
  refine ⟨?_, live.limited, ?_, ?_, live.held, ?_⟩
  · exact live.paired.trans (List.length_modify ..).symm
  · rw [fetches, List.pairwise_append, List.pairwise_cons]
    refine ⟨early, ⟨fun g _ queued => ?_, rest⟩, fun g member h _ queued => ?_⟩
    · rw [started] at queued
      cases queued
    · rw [whole, ← length, List.take_left] at first
      rw [first g member] at queued
      cases queued
  · have bounded := live.bounded
    have one : (if ({ f with stage } : Fetch).isRunning = true then 1 else 0) ≤ 1 := by
      split <;> omega
    have limit : (p.setStage i stage).limit = p.limit := rfl
    rw [whole] at bounded room
    rw [fetches]
    simp only [List.countP_append, List.countP_cons] at bounded room ⊢
    rcases room with running | few
    · simp only [running, if_true] at bounded
      omega
    · omega
  · intro j l answer there asking
    obtain ⟨g, mine, classifying⟩ := live.askers there asking
    by_cases same : i = j
    · subst same
      exact ⟨_, getElem?_setStage_self here, asks l answer there asking⟩
    · exact ⟨g, (getElem?_setStage_ne p _ same).trans mine, classifying⟩

theorem Live.started_before {f : Fetch} (live : p.Live) (here : p.fetches[i]? = some f)
    (running : f.isRunning = true) : ∀ g ∈ p.fetches.take i, g.isQueued = false := by
  obtain ⟨before, after, whole, length, -⟩ := modify_split here id
  have order := live.inOrder
  rw [whole, List.pairwise_append] at order
  rw [whole, ← length, List.take_left]
  intro g member
  rw [Bool.eq_false_iff]
  intro queued
  have wrong := order.2.2 g member f (List.mem_cons_self ..) queued
  rw [(Fetch.isRunning_iff.mp running).1] at wrong
  cases wrong

theorem Live.proceed {f : Fetch} (live : p.Live) (stage : Stage) (here : p.fetches[i]? = some f)
    (running : f.isRunning = true) (started : ({ f with stage } : Fetch).isQueued = false)
    (asks : ∀ l answer, p.lookups.lookups[i]? = some l → l.stage = .asking answer → stage = .classifying) :
    (p.setStage i stage).Live :=
  live.move stage here (live.started_before here running) (.inl running) started asks

theorem Live.start {f : Fetch} (live : p.Live) (here : p.fetches[i]? = some f)
    (free : p.mayStart i = true) : (p.setStage i .classifying).Live := by
  obtain ⟨started, few⟩ := (Bool.and_eq_true ..).mp free
  rw [decide_eq_true_eq, ← List.countP_eq_length_filter] at few
  refine live.move .classifying here ?_ (.inr few) rfl fun _ _ _ _ => rfl
  intro g member
  simpa using List.all_eq_true.mp started g member

theorem Live.lookup {f : Fetch} {lookups : Lookups σ} (live : p.Live) (here : p.fetches[i]? = some f)
    (classifying : f.stage = .classifying) (step : Lookups.Step store p.lookups i lookups) :
    ({ p with lookups } : Progress σ).Live where
  paired := step.length.trans live.paired
  limited := live.limited
  inOrder := live.inOrder
  bounded := live.bounded
  held := live.held.step step
  askers := by
    intro j l answer there asking
    by_cases same : i = j
    · subst same
      exact ⟨f, here, classifying⟩
    · exact live.askers ((step.getElem?_ne same).symm.trans there) asking

theorem Live.step (live : p.Live) (step : Step store p i p') : p'.Live := by
  cases step with
  | start here queued free => exact live.start here free
  | lookup here classifying unsettled moved => exact live.lookup here classifying moved
  | @refuse f cause here classifying result =>
    have running := Fetch.isRunning_of_classifying classifying
    refine (live.proceed (.finished (.error cause)) here running rfl ?_).congr rfl rfl rfl
    intro l answer there asking
    exact (Lookups.not_asking_of_result result there asking).elim
  | @read f shape here classifying result =>
    have running := Fetch.isRunning_of_classifying classifying
    refine (live.proceed (.reading shape _) here running rfl ?_).congr rfl rfl rfl
    intro l answer there asking
    exact (Lookups.not_asking_of_result result there asking).elim
  | @finish f shape answer here reading =>
    have running := Fetch.isRunning_of_reading reading
    refine (live.proceed (.finished (outcome shape f.reference answer)) here running rfl ?_).congr rfl rfl rfl
    intro l answer' there asking
    obtain ⟨g, same, classifying⟩ := live.askers there asking
    cases here.symm.trans same
    rw [reading] at classifying
    cases classifying

theorem mem_window {f : Fetch} (here : p.fetches[i]? = some f) (unfinished : f.isFinished = false)
    (few : (p.fetches.take i).countP (!·.isFinished) < p.limit) : i ∈ p.window := by
  obtain ⟨before, after, whole, rfl, -⟩ := modify_split here id
  rw [whole, List.take_left] at few
  have size : ((before.zipIdx.filter (!·.1.isFinished)).map (·.2)).length = before.countP (!·.isFinished) := by
    rw [List.length_map, ← List.countP_eq_length_filter, ← Function.comp_def (fun f : Fetch => !f.isFinished),
      ← List.countP_map, List.zipIdx_map_fst]
  have cut : (p.fetches.zipIdx.filter (!·.1.isFinished)).map (·.2) =
      (before.zipIdx.filter (!·.1.isFinished)).map (·.2) ++
        before.length :: ((after.zipIdx (before.length + 1)).filter (!·.1.isFinished)).map (·.2) := by
    simp [whole, List.zipIdx_append, List.zipIdx_cons, unfinished]
  unfold window
  rw [cut, List.take_append, size]
  apply List.mem_append_right
  obtain ⟨n, room⟩ := Nat.exists_eq_add_of_lt few
  rw [room, Nat.add_assoc, Nat.add_sub_cancel_left, List.take_succ_cons]
  exact List.mem_cons_self ..

theorem Live.running_mem_window {f : Fetch} (live : p.Live) (here : p.fetches[i]? = some f)
    (running : f.isRunning = true) : i ∈ p.window := by
  have started := live.started_before here running
  have bounded := live.bounded
  obtain ⟨queued, unfinished⟩ := Fetch.isRunning_iff.mp running
  apply mem_window here unfinished
  have same : (p.fetches.take i).countP (!·.isFinished) = (p.fetches.take i).countP (·.isRunning) := by
    refine List.countP_congr fun g member => ?_
    simp [Fetch.isRunning, started g member]
  obtain ⟨before, after, whole, rfl, -⟩ := modify_split here id
  rw [same, whole, List.take_left]
  rw [whole, List.countP_append, List.countP_cons, if_pos running] at bounded
  omega

theorem Live.mayStart_first (live : p.Live) (first : ∀ g ∈ p.fetches.take i, g.isFinished = true)
    (idle : ∀ g ∈ p.fetches, g.isRunning = false) : p.mayStart i = true := by
  have none : p.fetches.filter (·.isRunning) = [] := by
    rw [List.filter_eq_nil_iff]
    intro g member running
    rw [idle g member] at running
    cases running
  unfold mayStart
  rw [none, Bool.and_eq_true]
  refine ⟨List.all_eq_true.mpr fun g member => ?_, decide_eq_true live.limited⟩
  have finished := first g member
  unfold Fetch.isFinished at finished
  unfold Fetch.isQueued
  split at finished
  · rename_i stage
    rw [stage]
    rfl
  · cases finished

theorem Live.moves_or_waits {f : Fetch} (store : Store σ) (live : p.Live) (here : p.fetches[i]? = some f)
    (running : f.isRunning = true) :
    (∃ p', p.advance store i = some p') ∨ ∃ mount, p.lookups.cell mount = .asking := by
  simp only [advance, here]
  cases stage : f.stage with
  | queued => simp [Fetch.isRunning, Fetch.isQueued, stage] at running
  | finished outcome => simp [Fetch.isRunning, Fetch.isFinished, stage] at running
  | reading shape answer => exact .inl ⟨_, rfl⟩
  | classifying =>
    cases result : p.lookups.result? i with
    | some r =>
      left
      cases r with
      | error cause => exact ⟨_, rfl⟩
      | ok shape => exact ⟨_, rfl⟩
    | none =>
      cases moved : p.lookups.advance store i with
      | some lookups => exact .inl ⟨_, rfl⟩
      | none =>
        right
        have bound : i < p.lookups.lookups.length := by
          rw [live.paired]
          exact (List.getElem?_eq_some_iff.mp here).1
        have there := List.getElem?_eq_getElem bound
        rcases Lookups.blocked_of_advance_eq_none there moved with ⟨r, settled⟩ | ⟨-, asking⟩
        · rw [Lookups.result?_eq_some_iff.mpr ⟨_, there, settled⟩] at result
          cases result
        · exact ⟨_, asking⟩

theorem Live.asker_moves {mount : String} (store : Store σ) (live : p.Live)
    (asking : p.lookups.cell mount = .asking) :
    ∃ j f, p.fetches[j]? = some f ∧ f.isRunning = true ∧ ∃ p', p.advance store j = some p' := by
  obtain ⟨j, l, answer, there, -, asks⟩ := live.held mount asking
  obtain ⟨f, here, classifying⟩ := live.askers there asks
  refine ⟨j, f, here, Fetch.isRunning_of_classifying classifying, ?_⟩
  have unsettled : p.lookups.result? j = none := by
    rw [Option.eq_none_iff_forall_ne_some]
    intro r result
    exact Lookups.not_asking_of_result result there asks
  obtain ⟨lookups, moved⟩ : ∃ lookups, p.lookups.advance store j = some lookups := by
    simp only [Lookups.advance, there, asks]
    exact ⟨_, rfl⟩
  refine ⟨{ p with lookups }, ?_⟩
  simp only [advance, here, classifying, unsettled, moved, Option.map_some]

theorem exists_first_unfinished (unfinished : ∃ f ∈ p.fetches, f.isFinished = false) :
    ∃ i f, p.fetches[i]? = some f ∧ f.isFinished = false ∧ ∀ g ∈ p.fetches.take i, g.isFinished = true := by
  have found : p.fetches.findIdx (!·.isFinished) < p.fetches.length := by
    rw [List.findIdx_lt_length]
    simpa using unfinished
  refine ⟨_, _, List.getElem?_eq_getElem found, ?_, ?_⟩
  · simpa using List.findIdx_getElem (w := found)
  · intro g member
    obtain ⟨j, less, rfl⟩ := List.mem_take_iff_getElem.mp member
    simpa using List.not_of_lt_findIdx (Nat.lt_of_lt_of_le less (Nat.min_le_left ..))

theorem Live.first_moves {f : Fetch} (store : Store σ) (live : p.Live) (here : p.fetches[i]? = some f)
    (unfinished : f.isFinished = false) (first : ∀ g ∈ p.fetches.take i, g.isFinished = true)
    (idle : ∀ g ∈ p.fetches, g.isRunning = false) : i ∈ p.window ∧ ∃ p', p.advance store i = some p' := by
  constructor
  · apply mem_window here unfinished
    rw [List.countP_eq_zero.mpr]
    · exact live.limited
    · intro g member
      simp [first g member]
  · have free := live.mayStart_first first idle
    have queued : f.stage = .queued := by
      have rest := idle f (List.mem_of_getElem? here)
      cases stage : f.stage <;> simp [Fetch.isRunning, Fetch.isQueued, Fetch.isFinished, stage] at rest unfinished ⊢
    refine ⟨p.setStage i .classifying, ?_⟩
    simp only [advance, here, queued, if_pos free]

/-- As long as a fetch is not finished, one of the window can move. -/
theorem Live.exists_move (store : Store σ) (live : p.Live)
    (unfinished : ∃ f ∈ p.fetches, f.isFinished = false) : ∃ j ∈ p.window, ∃ p', p.advance store j = some p' := by
  by_cases busy : ∃ f ∈ p.fetches, f.isRunning = true
  · obtain ⟨f, member, running⟩ := busy
    obtain ⟨i, here⟩ := List.mem_iff_getElem?.mp member
    rcases live.moves_or_waits store here running with moves | ⟨mount, asking⟩
    · exact ⟨i, live.running_mem_window here running, moves⟩
    · obtain ⟨j, g, there, asker, moves⟩ := live.asker_moves store asking
      exact ⟨j, live.running_mem_window there asker, moves⟩
  · -- With nothing under way the first unfinished fetch is queued, and there is room for it.
    have idle : ∀ g ∈ p.fetches, g.isRunning = false := by
      intro g member
      rw [Bool.eq_false_iff]
      intro running
      exact busy ⟨g, member, running⟩
    obtain ⟨i, f, here, open_here, first⟩ := exists_first_unfinished unfinished
    obtain ⟨inside, moves⟩ := live.first_moves store here open_here first idle
    exact ⟨i, inside, moves⟩

theorem remaining_run_lt {schedule : List Nat} (moves : ∃ i ∈ schedule, ∃ p', p.advance store i = some p') :
    (p.run store schedule).remaining < p.remaining :=
  foldl_advance_lt (fun _ _ _ advanced => (step_of_advance advanced).remaining_lt) moves

theorem Live.run (live : p.Live) (schedule : List Nat) : (p.run store schedule).Live :=
  run_induction (step_eq_or_step store) schedule live fun _ live step => live.step step

theorem window_eq_nil (done : ∀ f ∈ p.fetches, f.isFinished = true) : p.window = [] := by
  have none : p.fetches.zipIdx.filter (!·.1.isFinished) = [] := by
    rw [List.filter_eq_nil_iff]
    intro e member
    simp [done e.1 (List.fst_mem_of_mem_zipIdx member)]
  rw [window, none, List.map_nil, List.take_nil]

theorem finished_of_remaining (none : p.remaining = 0) : ∀ f ∈ p.fetches, f.isFinished = true := by
  intro f member
  obtain ⟨i, here⟩ := List.mem_iff_getElem?.mp member
  by_contra unfinished
  have positive := left_pos here ((Bool.not_eq_true _).mp unfinished)
  have bound := (List.getElem?_eq_some_iff.mp here).1
  have zero := Finset.sum_eq_zero_iff.mp none i (Finset.mem_range.mpr bound)
  omega

theorem Live.rounds_finished (n : Nat) (live : p.Live) (few : p.remaining ≤ n) :
    ∀ f ∈ (rounds store n p).fetches, f.isFinished = true := by
  induction n generalizing p with
  | zero => exact finished_of_remaining (Nat.le_zero.mp few)
  | succ n ih =>
    unfold rounds
    by_cases done : ∀ f ∈ p.fetches, f.isFinished = true
    · rw [window_eq_nil done]
      exact done
    · have unfinished : ∃ f ∈ p.fetches, f.isFinished = false := by simpa using done
      have moves := live.exists_move store unfinished
      -- A round leaves fewer steps, so the rest of the rounds is enough for what remains.
      have fewer := remaining_run_lt moves
      split
      · rename_i closed
        obtain ⟨j, inside, -⟩ := moves
        rw [closed] at inside
        cases inside
      · exact ih (live.run _) (by omega)

theorem Live.complete_finished (live : p.Live) : ∀ f ∈ (p.complete store).fetches, f.isFinished = true :=
  live.rounds_finished _ p.remaining_le

end Progress

end SecretTemplate.Resolution
