import Mathlib.Logic.Relation
import SecretTemplate.Proofs.Resolution.Answers

namespace SecretTemplate.Resolution

variable {σ : Type}

namespace Progress

open Relation (ReflTransGen)

variable {store : Store σ} {p p' q q' : Progress σ} {i j : Nat}

theorem eq_of_countP_le_one {α : Type} {l : List α} {test : α → Bool} {a b : α} (few : l.countP test ≤ 1)
    (first : l[i]? = some a) (passes : test a = true) (second : l[j]? = some b) (passes' : test b = true) : i = j := by
  -- Of two different places one comes first, and both are counted.
  have apart {i j : Nat} {a b : α} (first : l[i]? = some a) (passes : test a = true) (second : l[j]? = some b)
      (passes' : test b = true) : ¬ i < j := by
    intro less
    obtain ⟨before, after, whole, length, -⟩ := modify_split second id
    have early : a ∈ before := by
      rw [whole, List.getElem?_append_left (length ▸ less)] at first
      exact List.mem_of_getElem? first
    have counted : 0 < before.countP test := List.countP_pos_iff.mpr ⟨a, early, passes⟩
    rw [whole, List.countP_append, List.countP_cons_of_pos passes'] at few
    omega
  have notLess := apart first passes second passes'
  have notMore := apart second passes' first passes
  omega

theorem Step.mover (step : Step store p i p') :
    ∃ f, p.fetches[i]? = some f ∧ (f.isRunning = true ∨ f.isQueued = true ∧ p.mayStart i = true) := by
  cases step with
  | start here queued free => exact ⟨_, here, .inr ⟨by simp [Fetch.isQueued, queued], free⟩⟩
  | lookup here classifying => exact ⟨_, here, .inl (Fetch.isRunning_of_classifying classifying)⟩
  | refuse here classifying => exact ⟨_, here, .inl (Fetch.isRunning_of_classifying classifying)⟩
  | read here classifying => exact ⟨_, here, .inl (Fetch.isRunning_of_classifying classifying)⟩
  | finish here reading => exact ⟨_, here, .inl (Fetch.isRunning_of_reading reading)⟩

theorem Step.limit (step : Step store p i p') : p'.limit = p.limit := by
  cases step with
  | start => rfl
  | lookup => rfl
  | refuse => rfl
  | read => rfl
  | finish => rfl

theorem not_mayStart {f : Fetch} (one : p.limit = 1) (here : p.fetches[i]? = some f) (running : f.isRunning = true) :
    p.mayStart j = false := by
  rw [Bool.eq_false_iff]
  intro free
  obtain ⟨-, few⟩ := (Bool.and_eq_true ..).mp free
  rw [decide_eq_true_eq, one, ← List.countP_eq_length_filter] at few
  have counted : 0 < p.fetches.countP (·.isRunning) :=
    List.countP_pos_iff.mpr ⟨f, List.mem_of_getElem? here, running⟩
  omega

theorem not_before_mayStart {f : Fetch} (here : p.fetches[i]? = some f) (queued : f.isQueued = true)
    (free : p.mayStart j = true) : ¬ i < j := by
  intro less
  obtain ⟨started, -⟩ := (Bool.and_eq_true ..).mp free
  obtain ⟨bound, rfl⟩ := List.getElem?_eq_some_iff.mp here
  have early : p.fetches[i] ∈ p.fetches.take j := List.mem_take_iff_getElem.mpr ⟨i, by omega, rfl⟩
  have wrong := List.all_eq_true.mp started _ early
  rw [queued] at wrong
  cases wrong

theorem Live.mover_unique (live : p.Live) (one : p.limit = 1) (first : Step store p i q) (second : Step store p j q') :
    i = j := by
  obtain ⟨f, here, moves⟩ := first.mover
  obtain ⟨g, there, moves'⟩ := second.mover
  rcases moves with running | ⟨queued, free⟩
  · rcases moves' with running' | ⟨-, free'⟩
    · exact eq_of_countP_le_one (one ▸ live.bounded) here running there running'
    · rw [not_mayStart one here running] at free'
      cases free'
  · rcases moves' with running' | ⟨queued', free'⟩
    · rw [not_mayStart one there running'] at free
      cases free
    · have notLess := not_before_mayStart here queued free'
      have notMore := not_before_mayStart there queued' free
      omega

/-- The moves of fetches that go one at a time. -/
def Moves (store : Store σ) (p q : Progress σ) : Prop :=
  p.Live ∧ p.limit = 1 ∧ ∃ i, p.advance store i = some q

theorem moves_unique (store : Store σ) : Relator.RightUnique (Moves store) := by
  rintro p q q' ⟨live, one, i, first⟩ ⟨-, -, j, second⟩
  have same := live.mover_unique one (step_of_advance first) (step_of_advance second)
  subst same
  exact Option.some.inj (first.symm.trans second)

theorem Live.reaches (live : p.Live) (one : p.limit = 1) (schedule : List Nat) :
    ReflTransGen (Moves store) p (p.run store schedule) := by
  induction schedule generalizing p with
  | nil => exact .refl
  | cons i rest ih =>
    show ReflTransGen (Moves store) p ((p.step store i).run store rest)
    cases advanced : p.advance store i with
    | none =>
      have same : p.step store i = p := by rw [Progress.step, advanced, Option.getD_none]
      rw [same]
      exact ih live one
    | some q =>
      have next : p.step store i = q := by rw [Progress.step, advanced, Option.getD_some]
      have moved := step_of_advance advanced
      rw [next]
      exact .head ⟨live, one, i, advanced⟩ (ih (live.step moved) (moved.limit.trans one))

theorem not_moves (finished : ∀ f ∈ p.fetches, f.isFinished = true) : ¬ Moves store p q := by
  rintro ⟨-, -, i, advanced⟩
  obtain ⟨f, here, moves⟩ := (step_of_advance advanced).mover
  have ended := finished f (List.mem_of_getElem? here)
  rcases moves with running | ⟨queued, -⟩
  · rw [(Fetch.isRunning_iff.mp running).2] at ended
    cases ended
  · cases stage : f.stage <;> simp [Fetch.isQueued, Fetch.isFinished, stage] at queued ended

theorem Live.run_unique {schedule schedule' : List Nat} (live : p.Live) (one : p.limit = 1)
    (finished : ∀ f ∈ (p.run store schedule).fetches, f.isFinished = true)
    (finished' : ∀ f ∈ (p.run store schedule').fetches, f.isFinished = true) :
    p.run store schedule = p.run store schedule' := by
  have final {a b : Progress σ} (ended : ∀ f ∈ a.fetches, f.isFinished = true)
      (further : ReflTransGen (Moves store) a b) :
      a = b := by
    rcases further.cases_head with same | ⟨c, moves, -⟩
    · exact same
    · exact (not_moves ended moves).elim
  rcases ReflTransGen.total_of_right_unique (moves_unique store) (live.reaches one schedule)
      (live.reaches one schedule') with further | further
  · exact final finished further
  · exact (final finished' further).symm

theorem last_unique (store : Store σ) {limit : Nat} (one : limit ≤ 1) (schedule schedule' : List Nat) (batch : Batch)
    (s : Session σ) : last store limit schedule batch s = last store limit schedule' batch s := by
  obtain ⟨whole, -, same⟩ := last_eq_run store limit schedule batch s
  obtain ⟨whole', -, same'⟩ := last_eq_run store limit schedule' batch s
  have finished := last_finished store limit schedule batch s
  have finished' := last_finished store limit schedule' batch s
  have single : (first store limit batch s).limit = 1 := Nat.max_eq_left one
  rw [same] at finished ⊢
  rw [same'] at finished' ⊢
  exact (Live.ofBatch batch limit _).run_unique single finished finished'

end Progress

/-- One at a time the schedule makes no difference. -/
theorem resolve_one_at_a_time (store : Store σ) {limit : Nat} (one : limit ≤ 1) (schedule schedule' : List Nat)
    (placeholders : List String) (s : Session σ) :
    resolve store limit schedule placeholders s = resolve store limit schedule' placeholders s := by
  have same (batch : Batch) (s : Session σ) :
      resolveBatch store limit schedule batch s = resolveBatch store limit schedule' batch s := by
    have last := Progress.last_unique store one schedule schedule' batch s
    unfold Progress.last Progress.first at last
    unfold resolveBatch
    dsimp only
    rw [last]
  unfold resolve
  dsimp only
  split
  · rfl
  · rw [same]

end SecretTemplate.Resolution
