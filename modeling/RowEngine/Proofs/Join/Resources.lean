import RowEngine.Proofs.Join.Step

/-!
# What a join does with its inputs

A join reads its right input to build the table, and it asks nothing of it afterwards but to be
closed. Its table is built once and let go once, and each input is closed once, whatever fails on
the way.
-/

namespace RowEngine

namespace Join

open Operator

variable {plan : JoinPlan} {left right : Operator} {stopped : Bool}

theorem asked_pullLeft (plan : JoinPlan) (table : JoinTable) (s : left.recorded.State) :
    ∃ n, (pullLeft plan table left.recorded stopped s).state.1.asked =
      s.asked ++ List.replicate n .next := by
  fun_induction pullLeft plan table left.recorded stopped s with
  | case6 s step row hout slot hslot hnone ih =>
    obtain ⟨n, hn⟩ := ih
    exact ⟨n + 1, hn.trans (append_replicate_next s.asked n)⟩
  | _ => exact ⟨1, rfl⟩

/-- Whatever the phase, the left input is asked for nothing but rows. -/
theorem asked_advance (plan : JoinPlan) (table : JoinTable) (s : left.recorded.State)
    (phase : Phase) : ∃ n, (advance plan table left.recorded stopped s phase).state.1.asked =
      s.asked ++ List.replicate n .next := by
  unfold advance
  split
  · exact ⟨0, (List.append_nil _).symm⟩
  · exact asked_pullLeft plan table s
  · split
    · exact ⟨0, (List.append_nil _).symm⟩
    · exact asked_pullLeft plan table s

/-- A request for a row asks the left input for rows and for nothing else. -/
theorem asked_next (left right : Operator) (plan : JoinPlan) (stopped : Bool)
    (s : State left.recorded.State right.State) :
    ∃ n, (next plan left.recorded right stopped s).state.left.asked =
      s.left.asked ++ List.replicate n .next := by
  obtain ⟨-, hsame | ⟨table, hleft⟩, -⟩ := next_cases _ _ plan stopped s
  · rw [hsame]
    exact ⟨0, (List.append_nil _).symm⟩
  · rw [hleft]
    exact asked_advance plan table s.left s.phase

/-- A load asks the right input for nothing but rows. -/
theorem asked_load (build : BuildSide) (stopped : Bool) (s : right.recorded.State) :
    ∃ n, (build.load right.recorded stopped s).state.2.asked =
      s.asked ++ List.replicate n .next := by
  have hfold := asked_fold right stopped (Buildup.add build.keyColumns) .empty s
  unfold BuildSide.load
  dsimp only
  split <;> exact hfold

end Join

/-- The build side of a join holds no table yet, it holds the one that was built, or it was let go
when the join was closed. The flag says whether it was. -/
inductive BuildSide.Lifecycle : BuildSide → Bool → Prop where
  | fresh {keys : List Nat} {closed : Bool} : Lifecycle ⟨keys, none, 0, 0⟩ closed
  | held {keys : List Nat} {table : JoinTable} : Lifecycle ⟨keys, some table, 1, 0⟩ false
  | released {keys : List Nat} : Lifecycle ⟨keys, none, 1, 1⟩ true

namespace BuildSide.Lifecycle

variable {build : BuildSide} {closed : Bool}

theorem loads_le (h : build.Lifecycle closed) : build.loads ≤ 1 := by
  cases h <;> simp

theorem releases_le (h : build.Lifecycle closed) : build.releases ≤ build.loads := by
  cases h <;> simp

/-- Where a table was built, it is still there, or the join was closed. -/
theorem table_ne_none (h : build.Lifecycle closed) (hloads : build.loads = 1) :
    closed = true ∨ build.table ≠ none := by
  cases h with
  | fresh => cases hloads
  | held => exact .inr nofun
  | released => exact .inl rfl

theorem load (h : build.Lifecycle false) (hnone : build.table = none) (input : Operator)
    (stopped : Bool) (s : input.State) :
    (build.load input stopped s).state.1.Lifecycle false := by
  rcases build.load_cases input stopped s with ⟨e, -, hbuild⟩ | ⟨table, -, hbuild⟩
  · rw [hbuild]
    exact h
  · rw [hbuild]
    cases h with
    | fresh => exact .held
    | held => cases hnone

/-- After a release, tables have been let go as often as they were built. -/
theorem release (h : build.Lifecycle false) : build.release.state.Lifecycle true ∧
    build.release.state.table = none ∧
    build.release.state.releases = build.release.state.loads := by
  cases h with
  | fresh => exact ⟨.fresh, rfl, rfl⟩
  | held => exact ⟨.released, rfl, rfl⟩

end BuildSide.Lifecycle

namespace Join

open Operator

section

variable {left right : Operator}

theorem close_of_closed {s : State left.State right.State} (h : s.closed = true) :
    close left right s = ⟨.ok (), s, []⟩ :=
  if_pos h

theorem closed_close (s : State left.State right.State) :
    (close left right s).state.closed = true := by
  unfold close
  split
  · assumption
  · rfl

end

/-- What holds of a join whose inputs remember what they are asked. -/
structure Tracked {σ τ : Type} (s : State (Recorded σ) (Recorded τ)) : Prop where
  build : s.build.Lifecycle s.closed
  left : s.left.asked.count .close = if s.closed then 1 else 0
  right : ∃ n, s.right.asked = List.replicate n .next ++ if s.closed then [.close] else []

namespace Tracked

variable {plan : JoinPlan} {left right : Operator}
  {s : State left.recorded.State right.recorded.State}

theorem start (left right : Operator) (plan : JoinPlan) :
    Tracked (left.recorded.leftJoin right.recorded plan).start :=
  ⟨.fresh, rfl, 0, rfl⟩

theorem next (h : Tracked s) (plan : JoinPlan) (stopped : Bool) :
    Tracked (Join.next plan left.recorded right.recorded stopped s).state := by
  obtain ⟨hclosed, -, hright⟩ := next_cases _ right.recorded plan stopped s
  obtain ⟨n, hleft⟩ := asked_next left right.recorded plan stopped s
  refine ⟨?_, ?_, ?_⟩
  · rw [hclosed]
    rcases hright with ⟨-, hbuild⟩ | ⟨-, hopen, hnone, -, hbuild⟩
    · rw [hbuild]
      exact h.build
    · have hlife := h.build
      rw [hopen] at hlife ⊢
      rw [hbuild]
      exact hlife.load hnone right.recorded stopped s.right
  · rw [hclosed, hleft, List.count_append, h.left]
    simp [List.count_replicate]
  · rw [hclosed]
    obtain ⟨m, hm⟩ := h.right
    rcases hright with ⟨hsame, -⟩ | ⟨-, hopen, -, hload, -⟩
    · rw [hsame]
      exact ⟨m, hm⟩
    · obtain ⟨k, hk⟩ := asked_load s.build stopped s.right
      refine ⟨m + k, ?_⟩
      rw [hload, hk, hm, hopen]
      simp [List.replicate_append_replicate]

theorem rescan (h : Tracked s) : Tracked (Join.rescan left.recorded right.recorded s).state := by
  refine ⟨h.build, ?_, h.right⟩
  change (s.left.asked ++ [Command.rescan]).count Command.close = _
  rw [List.count_append, h.left]
  rfl

/-- The first time a join is closed, it closes both inputs and lets the table go. -/
theorem closed_state (hopen : s.closed = false) :
    (Join.close left.recorded right.recorded s).state =
      ⟨⟨(left.close s.left.input).state, s.left.asked ++ [.close]⟩,
        ⟨(right.close s.right.input).state, s.right.asked ++ [.close]⟩, s.build.release.state,
        .finished, true⟩ := by
  simp only [Join.close, hopen]
  rfl

theorem close (h : Tracked s) : Tracked (Join.close left.recorded right.recorded s).state := by
  cases hclosed : s.closed with
  | true =>
    rw [close_of_closed hclosed]
    exact h
  | false =>
    obtain ⟨hlife, hleft, n, hright⟩ := h
    rw [hclosed] at hlife hleft hright
    rw [closed_state hclosed]
    refine ⟨hlife.release.1, ?_, n, ?_⟩
    · simp [List.count_append, hleft]
    · simp [hright]

/-- Both inputs are closed even if the first one fails, and the first failure is reported. -/
theorem first_close (h : Tracked s) (hopen : s.closed = false) :
    let step := Join.close left.recorded right.recorded s
    step.state.left.asked = s.left.asked ++ [.close] ∧
    step.state.right.asked = s.right.asked ++ [.close] ∧
    step.state.build.table = none ∧ step.state.build.releases = step.state.build.loads ∧
    step.outcome = (left.close s.left.input).outcome.bind fun _ =>
      (right.close s.right.input).outcome := by
  intro step
  have hlife := h.build
  rw [hopen] at hlife
  obtain ⟨-, htable, hreleases⟩ := hlife.release
  have hstate : step.state = _ := closed_state hopen
  rw [hstate]
  refine ⟨rfl, rfl, htable, hreleases, ?_⟩
  simp only [step, Join.close, hopen]
  rfl

/-- The right input is never started over. -/
theorem rescan_not_mem (h : Tracked s) : .rescan ∉ s.right.asked := by
  obtain ⟨n, hn⟩ := h.right
  rw [hn]
  split <;> simp [List.mem_replicate]

theorem closes_left_le (h : Tracked s) : s.left.asked.count .close ≤ 1 := by
  rw [h.left]
  split <;> simp

/-- The right input is closed once at most. -/
theorem closes_right_le (h : Tracked s) : s.right.asked.count .close ≤ 1 := by
  obtain ⟨n, hn⟩ := h.right
  rw [hn]
  split <;> simp [List.count_replicate]

end Tracked

variable {plan : JoinPlan} {left right : Operator}

/-- A join is closed once it has been told to close. -/
theorem closed_run (task : Task (left.leftJoin right plan)) (commands : List Command) :
    (task.run commands).state.closed = (task.state.closed || decide (.close ∈ commands)) := by
  induction commands generalizing task with
  | nil => simp [Task.run]
  | cons command commands ih =>
    rw [Task.run, List.foldl_cons, ← Task.run, ih]
    cases command with
    | next =>
      have hnext := (next_cases _ _ plan task.stopped task.state).1
      simp [Task.after, Operator.leftJoin, hnext]
    | rescan => simp [Task.after, Operator.leftJoin, rescan]
    | close => simp [Task.after, Operator.leftJoin, closed_close]
    | stop => simp [Task.after]

/-- A join that takes no more rows from its right input: its table is there, or it was closed, or
the task was stopped. -/
def Sealed (task : Task (left.leftJoin right plan)) : Prop :=
  task.stopped = true ∨ task.state.closed = true ∨ task.state.build.table ≠ none

/-- No command makes a sealed join pull from its right input. -/
theorem Sealed.after {task : Task (left.leftJoin right.recorded plan)} (h : Sealed task)
    (command : Command) : Sealed (task.after command) ∧
      (task.after command).state.right.asked.count .next =
        task.state.right.asked.count .next := by
  cases command with
  | next =>
    obtain ⟨hclosed, -, ⟨hright, hbuild⟩ | ⟨hrunning, hopen, hnone, -, -⟩⟩ :=
      next_cases _ right.recorded plan task.stopped task.state
    · refine ⟨?_, congrArg (fun input => input.asked.count Command.next) hright⟩
      simpa only [Sealed, Task.after, Operator.leftJoin, hclosed, hbuild] using h
    · rcases h with hstopped | hclosed | htable
      · simp [hrunning] at hstopped
      · simp [hopen] at hclosed
      · exact absurd hnone htable
  | rescan => exact ⟨h, rfl⟩
  | close =>
    refine ⟨.inr (.inl (closed_close task.state)), ?_⟩
    change (Join.close left right.recorded task.state).state.right.asked.count Command.next = _
    unfold Join.close
    split
    · rfl
    · change (task.state.right.asked ++ [Command.close]).count Command.next = _
      rw [List.count_append]
      rfl
  | stop => exact ⟨.inl rfl, rfl⟩

theorem Sealed.run {task : Task (left.leftJoin right.recorded plan)} (h : Sealed task)
    (commands : List Command) : (task.run commands).state.right.asked.count .next =
      task.state.right.asked.count .next := by
  induction commands generalizing task with
  | nil => rfl
  | cons command commands ih =>
    obtain ⟨hsealed, hcount⟩ := h.after command
    exact (ih hsealed).trans hcount

/-- The join of two inputs that remember what they are asked, after some commands. -/
def observed (left right : Operator) (plan : JoinPlan) (commands : List Command) :
    Task (left.recorded.leftJoin right.recorded plan) :=
  (Task.start _).run commands

theorem tracked_observed (left right : Operator) (plan : JoinPlan) (commands : List Command) :
    Tracked (observed left right plan commands).state :=
  Task.run_keeps (fun stopped _ h => h.next plan stopped) (fun _ h => h.rescan) (fun _ h => h.close)
    _ (Tracked.start left right plan) commands

theorem closed_observed (left right : Operator) (plan : JoinPlan) (commands : List Command) :
    (observed left right plan commands).state.closed = decide (.close ∈ commands) := by
  rw [observed, closed_run]
  rfl

theorem stopped_observed (left right : Operator) (plan : JoinPlan) (commands : List Command) :
    (observed left right plan commands).stopped = decide (.stop ∈ commands) := by
  rw [observed, Task.stopped_run]
  rfl

/-- A join whose table was built, or that was told to close or to stop, takes no more rows from its
right input. -/
theorem sealed_observed {commands : List Command}
    (h : (observed left right plan commands).state.build.loads = 1 ∨ .close ∈ commands ∨
      .stop ∈ commands) : Sealed (observed left right plan commands) := by
  rcases h with hloads | hclose | hstop
  · exact .inr ((tracked_observed left right plan commands).build.table_ne_none hloads)
  · exact .inr (.inl (by simp [closed_observed, hclose]))
  · exact .inl (by simp [stopped_observed, hstop])

/-- What is to be said of a join after some commands, where `task` is the join of two inputs that
remember what they are asked. -/
structure Manages (commands : List Command)
    (task : Task (left.recorded.leftJoin right.recorded plan)) : Prop where
  /-- That the inputs remember makes no difference to the join. -/
  plain : task.state.map Recorded.input Recorded.input =
    ((Task.start (left.leftJoin right plan)).run commands).state
  loads_le : task.state.build.loads ≤ 1
  releases_le : task.state.build.releases ≤ task.state.build.loads
  /-- The right input is never started over. -/
  rescan_not_mem : .rescan ∉ task.state.right.asked
  /-- A request for a row leaves the right input as it is, or as building the table leaves it. -/
  next_right : ∀ stopped,
    (next plan left.recorded right.recorded stopped task.state).state.right = task.state.right ∨
      (next plan left.recorded right.recorded stopped task.state).state.right =
        (task.state.build.load right.recorded stopped task.state.right).state.2
  /-- Once the table was built, or the join closed, or the task stopped, the right input is asked
  for no more rows. -/
  pulls_eq : task.state.build.loads = 1 ∨ .close ∈ commands ∨ .stop ∈ commands →
    ∀ more, (task.run more).state.right.asked.count .next = task.state.right.asked.count .next
  closes_left_le : task.state.left.asked.count .close ≤ 1
  closes_right_le : task.state.right.asked.count .close ≤ 1
  /-- The first close closes both inputs, whatever comes of it, lets the table go and reports the
  first failure. -/
  first_close : .close ∉ commands →
    let step := close left.recorded right.recorded task.state
    step.state.left.asked = task.state.left.asked ++ [.close] ∧
    step.state.right.asked = task.state.right.asked ++ [.close] ∧
    step.state.build.table = none ∧ step.state.build.releases = step.state.build.loads ∧
    step.outcome = (left.close task.state.left.input).outcome.bind fun _ =>
      (right.close task.state.right.input).outcome
  /-- Every other close does nothing. -/
  later_close : .close ∈ commands →
    close left.recorded right.recorded task.state = ⟨.ok (), task.state, []⟩

/-- Whatever its inputs do and whatever it is told, a join builds and releases its table at most
once, reads the right input for nothing else and closes each input once. -/
theorem manages_observed (left right : Operator) (plan : JoinPlan) (commands : List Command) :
    Manages commands (observed left right plan commands) := by
  have htracked := tracked_observed left right plan commands
  constructor
  case plain =>
    exact ((recorded_extends left).leftJoin (recorded_extends right) plan).state_run commands
  case loads_le => exact htracked.build.loads_le
  case releases_le => exact htracked.build.releases_le
  case rescan_not_mem => exact htracked.rescan_not_mem
  case next_right =>
    intro stopped
    obtain ⟨-, -, ⟨hsame, -⟩ | ⟨-, -, -, hload, -⟩⟩ :=
      next_cases _ right.recorded plan stopped (observed left right plan commands).state
    · exact .inl hsame
    · exact .inr hload
  case pulls_eq =>
    intro h
    exact (sealed_observed h).run
  case closes_left_le => exact htracked.closes_left_le
  case closes_right_le => exact htracked.closes_right_le
  case first_close =>
    intro h
    exact htracked.first_close (by simp [closed_observed, h])
  case later_close =>
    intro h
    exact close_of_closed (by simp [closed_observed, h])

end Join

end RowEngine
