import RowEngine.Proofs.Join.Partition
import RowEngine.Proofs.Join.Resources
import RowEngine.Proofs.Join.Stream
import RowEngine.Proofs.Operator.Retry

/-!
# Joins that fail while probing

A join is set to be finished before it does anything that may fail. So where a request fails and the
table is there, the join stays at its end, and asks nothing of its inputs, until it is started over.
Then it stands where a new join stands that has just built the same table, and it hands out what
that join would.
-/

namespace RowEngine

namespace Join

open Operator

variable {plan : JoinPlan} {table : JoinTable} {left right : Operator} {stopped : Bool}

section

variable {e : Failure}

theorem finished_of_pad {row : Row} (h : (pad plan row).outcome = .error e) :
    (pad plan row).state = .finished := by
  cases hpadded : (padded plan row).outcome with
  | error _ => simp [pad, hpadded]
  | ok out => simp [pad, hpadded] at h

/-- A failed pair ends the probing for good. -/
theorem finished_of_probe {row partner : Row} {slot index : Nat}
    (h : (probe plan table row partner slot index).outcome = .error e) :
    (probe plan table row partner slot index).state = .finished := by
  cases hpair : (pair plan row partner).outcome with
  | error _ => simp [probe, hpair]
  | ok out => simp [probe, hpair] at h

theorem finished_of_pullLeft {s : left.State}
    (h : (pullLeft plan table left stopped s).outcome = .error e) :
    (pullLeft plan table left stopped s).state.2 = .finished := by
  fun_induction pullLeft plan table left stopped s with
  | case1 | case2 | case3 => rfl
  | case4 => exact finished_of_pad h
  | case5 => exact finished_of_probe h
  | case6 _ _ _ _ _ _ _ ih => exact ih h

/-- However a request fails once the table is there, the join is finished. -/
theorem finished_of_withTable {s : State left.State right.State}
    (h : (withTable plan table left stopped s).outcome = .error e) :
    (withTable plan table left stopped s).state.phase = .finished := by
  obtain ⟨input, t, build, phase, closed⟩ := s
  cases phase with
  | finished => rfl
  | needLeft => exact finished_of_pullLeft h
  | matching row slot index =>
    simp only [withTable, advance] at h ⊢
    split at h
    · exact finished_of_probe h
    · exact finished_of_pullLeft h

/-- A request that fails leaves the join finished, unless it failed to build the table. -/
theorem finished_of_next {s : State left.State right.State}
    (h : (next plan left right stopped s).outcome = .error e)
    (htable : s.build.table ≠ none ∨ (next plan left right stopped s).state.build.table ≠ none) :
    (next plan left right stopped s).state.phase = .finished := by
  cases hidle : (stopped || s.closed || isFinished s.phase) with
  | true =>
    rw [next_idle hidle] at h
    cases h
  | false =>
    cases hthere : s.build.table with
    | some table =>
      rw [next_ready hidle hthere] at h ⊢
      exact finished_of_withTable h
    | none =>
      rcases s.build.load_cases right stopped s.right with ⟨_, hout, hbuild⟩ | ⟨table, hout, hbuild⟩
      · rw [next_fails hidle hthere hout] at htable
        simp [loaded, hbuild, hthere] at htable
      · rw [next_builds hidle hthere hout (congrArg BuildSide.table hbuild)] at h ⊢
        exact finished_of_withTable h

end

section

variable {task : Task (left.recorded.leftJoin right.recorded plan)}

/-- A finished join answers the end and stays as it is. -/
theorem next_finished {s : State left.State right.State} (h : s.phase = .finished) :
    next plan left right stopped s = ⟨.ok none, s, []⟩ :=
  next_idle (by simp [h, isFinished])

theorem after_next_finished {task : Task (left.leftJoin right plan)}
    (h : task.state.phase = .finished) : task.after .next = task := by
  simp only [Task.after, leftJoin, next_finished h]
  rfl

/-- A finished join stays as it is under any number of requests for rows. -/
theorem run_next_finished {task : Task (left.leftJoin right plan)}
    (h : task.state.phase = .finished) (n : Nat) : task.run (List.replicate n .next) = task := by
  induction n with
  | zero => rfl
  | succ n ih =>
    rw [List.replicate_succ, Task.run, List.foldl_cons, after_next_finished h]
    exact ih

/-- No command but a new start takes a join away from its end or asks an input for a row. -/
theorem finished_after (h : task.state.phase = .finished) {command : Command}
    (hcommand : command ≠ .rescan) :
    (task.after command).state.phase = .finished ∧
      (task.after command).state.left.asked.count .next = task.state.left.asked.count .next ∧
      (task.after command).state.right.asked.count .next = task.state.right.asked.count .next := by
  cases command with
  | next =>
    rw [after_next_finished h]
    exact ⟨h, rfl, rfl⟩
  | rescan => exact absurd rfl hcommand
  | close =>
    cases hclosed : task.state.closed with
    | true =>
      have hstate : (task.after .close).state = task.state :=
        congrArg Step.state (close_of_closed hclosed)
      rw [hstate]
      exact ⟨h, rfl, rfl⟩
    | false =>
      have hstate : (task.after .close).state = _ := Tracked.closed_state hclosed
      rw [hstate]
      simp
  | stop => exact ⟨h, rfl, rfl⟩

/-- Until it is started over, a finished join pulls from neither input. -/
theorem finished_run (h : task.state.phase = .finished) {commands : List Command}
    (hcommands : .rescan ∉ commands) :
    (task.run commands).state.phase = .finished ∧
      (task.run commands).state.left.asked.count .next = task.state.left.asked.count .next ∧
      (task.run commands).state.right.asked.count .next = task.state.right.asked.count .next := by
  induction commands generalizing task with
  | nil => exact ⟨h, rfl, rfl⟩
  | cons command commands ih =>
    rw [List.mem_cons, not_or] at hcommands
    obtain ⟨hphase, hleft, hright⟩ := finished_after h (Ne.symm hcommands.1)
    obtain ⟨hphases, hlefts, hrights⟩ := ih hphase hcommands.2
    exact ⟨hphases, hlefts.trans hleft, hrights.trans hright⟩

end

/-- The table was built by draining the right input from the state `t` on, and the input is still
where this left it. -/
structure BuiltFrom (plan : JoinPlan) (s : State left.State right.State) (t : right.State) :
    Prop where
  outcome : ((BuildSide.ofKeys plan.rightKeys).load right false t).outcome = .ok ()
  state : ((BuildSide.ofKeys plan.rightKeys).load right false t).state = (s.build, s.right)

namespace BuiltFrom

variable {s : State left.State right.State} {t : right.State}

theorem build_eq (h : BuiltFrom plan s t) :
    ∃ table, s.build = ⟨plan.rightKeys, some table, 1, 0⟩ := by
  have hbuild := congrArg Prod.fst h.state
  rcases (BuildSide.ofKeys plan.rightKeys).load_cases right false t with
    ⟨e, hout, -⟩ | ⟨table, -, hthere⟩
  · rw [h.outcome] at hout
    cases hout
  · exact ⟨table, hbuild.symm.trans hthere⟩

/-- The first request of a join that has no table, its right input being at `t`, is the first one of
the join that has it. -/
theorem next_fresh (h : BuiltFrom plan s t) (input : left.State) :
    next plan left right false ⟨input, t, .ofKeys plan.rightKeys, .needLeft, false⟩ =
      (next plan left right false ⟨input, s.right, s.build, .needLeft, false⟩).after
        ((BuildSide.ofKeys plan.rightKeys).load right false t).events := by
  obtain ⟨table, hbuild⟩ := h.build_eq
  have htable := congrArg BuildSide.table hbuild
  have hthere : ((BuildSide.ofKeys plan.rightKeys).load right false t).state.1.table =
      some table := by rw [h.state, htable]
  have hready : next plan left right false ⟨input, s.right, s.build, .needLeft, false⟩ =
      withTable plan table left false ⟨input, s.right, s.build, .needLeft, false⟩ :=
    next_ready rfl htable
  rw [next_builds rfl rfl h.outcome hthere, hready]
  simp only [loaded, h.state]

/-- A join hands out the same whether its table is there or has to be built first. -/
theorem collect_fresh (h : BuiltFrom plan s t) (input : left.State) :
    ((left.leftJoin right plan).collect false
        ⟨input, s.right, s.build, .needLeft, false⟩).outcome =
      ((left.leftJoin right plan).collect false
        ⟨input, t, .ofKeys plan.rightKeys, .needLeft, false⟩).outcome := by
  have houtcome := congrArg Step.outcome (h.next_fresh input)
  have hstate := congrArg Step.state (h.next_fresh input)
  exact (collect_congr (left.leftJoin right plan) houtcome hstate).symm

end BuiltFrom

/-- One of the requests failed to build the table. -/
def BuildFailed (left right : Operator) (plan : JoinPlan) (commands : List Command) : Prop :=
  ∃ earlier e, earlier ++ [.next] <+: commands ∧
    let task := (Task.start (left.leftJoin right plan)).run earlier
    let step := next plan left right task.stopped task.state
    step.outcome = .error e ∧ step.state.build.table = none

/-- A join after some commands: it was closed, or its table is still to be built, or was built. The
right input was drained from its start unless an attempt before had failed. -/
inductive Origin (left right : Operator) (plan : JoinPlan) (commands : List Command)
    (s : State left.State right.State) : Prop where
  | closed (h : s.closed = true)
  | unbuilt (hbuild : s.build = .ofKeys plan.rightKeys)
      (hright : s.right = right.start ∨ BuildFailed left right plan commands)
  | built {t : right.State} (hbuilt : BuiltFrom plan s t)
      (ht : t = right.start ∨ BuildFailed left right plan commands)

theorem BuildFailed.mono {commands more : List Command} (h : BuildFailed left right plan commands)
    (hlater : commands <+: more) : BuildFailed left right plan more := by
  obtain ⟨earlier, e, hearlier, hfails⟩ := h
  exact ⟨earlier, e, hearlier.trans hlater, hfails⟩

namespace Origin

variable {commands : List Command} {s : State left.State right.State}

theorem mono {more : List Command} (h : Origin left right plan commands s)
    (hlater : commands <+: more) : Origin left right plan more s := by
  cases h with
  | closed h => exact .closed h
  | unbuilt hbuild hright => exact .unbuilt hbuild (hright.imp_right (·.mono hlater))
  | built hbuilt ht => exact .built hbuilt (ht.imp_right (·.mono hlater))

/-- A request leaves it at that, builds the table, or fails to. -/
theorem next (h : Origin left right plan commands s) (stopped : Bool) :
    Origin left right plan commands (Join.next plan left right stopped s).state ∨
      (∃ e, (Join.next plan left right stopped s).outcome = .error e) ∧
        (Join.next plan left right stopped s).state.build = .ofKeys plan.rightKeys := by
  obtain ⟨hclosed, -, hsides⟩ := next_cases left right plan stopped s
  cases h with
  | closed h => exact .inl (.closed (hclosed.trans h))
  | unbuilt hbuild hright =>
    cases hidle : (stopped || s.closed || isFinished s.phase) with
    | true =>
      rw [next_idle hidle]
      exact .inl (.unbuilt hbuild hright)
    | false =>
      have hnone : s.build.table = none := by rw [hbuild]; rfl
      obtain rfl : stopped = false := by simp_all
      rcases s.build.load_cases right false s.right with ⟨e, hout, hsame⟩ | ⟨table, hout, hthere⟩
      · rw [next_fails hidle hnone hout]
        exact .inr ⟨⟨e, rfl⟩, hsame.trans hbuild⟩
      · rw [next_builds hidle hnone hout (congrArg BuildSide.table hthere)]
        refine .inl (.built (t := s.right) ⟨hbuild ▸ hout, ?_⟩ hright)
        rw [← hbuild]
        rfl
  | built hbuilt ht =>
    refine .inl (.built (t := _) ⟨hbuilt.outcome, ?_⟩ ht)
    rcases hsides with ⟨hright, hbuild⟩ | ⟨-, -, hnone, -⟩
    · rw [hright, hbuild]
      exact hbuilt.state
    · obtain ⟨table, hthere⟩ := hbuilt.build_eq
      rw [hthere] at hnone
      cases hnone

/-- Where a request fails and the table is there afterwards, it was built from rows of the right
input. -/
theorem built_of_error (h : Origin left right plan commands s) {e : Failure}
    (hfails : (Join.next plan left right stopped s).outcome = .error e)
    (htable : s.build.table ≠ none ∨
      (Join.next plan left right stopped s).state.build.table ≠ none) :
    (Join.next plan left right stopped s).state.closed = false ∧
      ∃ t, BuiltFrom plan (Join.next plan left right stopped s).state t ∧
        (t = right.start ∨ BuildFailed left right plan commands) := by
  obtain ⟨hclosed, -, hsides⟩ := next_cases left right plan stopped s
  have hopen : (Join.next plan left right stopped s).state.closed = false := by
    cases hidle : (stopped || s.closed || isFinished s.phase) with
    | true =>
      rw [next_idle hidle] at hfails
      cases hfails
    | false =>
      rw [hclosed]
      simp_all
  have hthere : (Join.next plan left right stopped s).state.build.table ≠ none := by
    rcases htable with hbefore | hafter
    · rcases hsides with ⟨-, hsame⟩ | ⟨-, -, hnone, -⟩
      · rwa [hsame]
      · exact absurd hnone hbefore
    · exact hafter
  have hunbuilt : (Join.next plan left right stopped s).state.build ≠ .ofKeys plan.rightKeys := by
    intro hbuild
    rw [hbuild] at hthere
    exact hthere rfl
  rcases h.next stopped with horigin | ⟨-, hbuild⟩
  · cases horigin with
    | closed h => simp [hopen] at h
    | unbuilt hbuild => exact absurd hbuild hunbuilt
    | built hbuilt ht => exact ⟨hopen, _, hbuilt, ht⟩
  · exact absurd hbuild hunbuilt

end Origin

/-- The induction is on the commands: each leaves the join where it began or goes on from a build.
-/
theorem origin_run (left right : Operator) (plan : JoinPlan) (commands : List Command) :
    Origin left right plan commands ((Task.start (left.leftJoin right plan)).run commands).state :=
    by
  induction commands using List.reverseRecOn with
  | nil => exact .unbuilt rfl (.inl rfl)
  | append_singleton commands command ih =>
    have hlater : commands <+: commands ++ [command] := List.prefix_append _ _
    have hrun : (Task.start (left.leftJoin right plan)).run (commands ++ [command]) =
        ((Task.start (left.leftJoin right plan)).run commands).after command :=
      Task.run_append _ _ _
    rw [hrun]
    cases command with
    | next =>
      rcases ih.next ((Task.start (left.leftJoin right plan)).run commands).stopped with
        hkept | ⟨⟨e, hfails⟩, hbuild⟩
      · exact hkept.mono hlater
      · refine .unbuilt hbuild (.inr ⟨commands, e, List.prefix_rfl, hfails, ?_⟩)
        exact congrArg BuildSide.table hbuild
    | rescan =>
      cases ih.mono hlater with
      | closed h => exact .closed h
      | unbuilt hbuild hright => exact .unbuilt hbuild hright
      | built hbuilt ht => exact .built ⟨hbuilt.outcome, hbuilt.state⟩ ht
    | close => exact .closed (closed_close _)
    | stop => exact ih.mono hlater

/-- Requests of a join that has its table leave the table and the right input as they are. -/
theorem collect_held (plan : JoinPlan) (left right : Operator) {s : State left.State right.State}
    (htable : s.build.table ≠ none) :
    ((left.leftJoin right plan).collect false s).state.build = s.build ∧
      ((left.leftJoin right plan).collect false s).state.right = s.right := by
  have hnext : ∀ u : (left.leftJoin right plan).State, u.build = s.build ∧ u.right = s.right →
      ((left.leftJoin right plan).next false u).state.build = s.build ∧
        ((left.leftJoin right plan).next false u).state.right = s.right := by
    rintro u ⟨hbuild, hright⟩
    obtain ⟨-, -, ⟨hsame, hheld⟩ | ⟨-, -, hnone, -, -⟩⟩ := next_cases left right plan false u
    · exact ⟨hheld.trans hbuild, hsame.trans hright⟩
    · rw [hbuild] at hnone
      exact absurd hnone htable
  exact fold_keeps hnext push [] ⟨rfl, rfl⟩

/-- A join that failed with its table there, and was then started over. Its right input had been
drained from the state `t` on. -/
structure Recovers (plan : JoinPlan) (failed again : State left.State right.State)
    (t : right.State) (rights : List Row) : Prop where
  /-- The table was built once. Draining the join does not build it again. -/
  loads : failed.build.loads = 1
  build_kept : ((left.leftJoin right plan).collect false again).state.build = failed.build
  right_kept : ((left.leftJoin right plan).collect false again).state.right = failed.right
  /-- The join hands out what one would that builds its table only now. -/
  outcome : ((left.leftJoin right plan).collect false again).outcome =
    ((left.leftJoin right plan).collect false
      ⟨again.left, t, .ofKeys plan.rightKeys, .needLeft, false⟩).outcome
  /-- The rows in the table are those that the right input hands out from `t` on. -/
  drained : (right.collect false t).outcome = .ok rights
  /-- If nothing fails, these are all rows of the join of the left rows from the first on. -/
  rows : ∀ lefts out, (left.collect false again.left).outcome = .ok lefts →
    (∀ row ∈ lefts, row.length = left.schema.size) →
    (∀ row ∈ rights, row.length = right.schema.size) → plan.rows rights lefts = .ok out →
    ((left.leftJoin right plan).collect false again).outcome = .ok out

theorem BuiltFrom.recovers {condition : Expr} {targets : Option (List Target)}
    {s : State left.State right.State} {t : right.State}
    (hplan : JoinPlan.make left.schema right.schema condition targets = .ok plan)
    (h : BuiltFrom plan s t) (hopen : s.closed = false) :
    ∃ rights, Recovers plan s (rescan left right s).state t rights := by
  obtain ⟨table, hbuild⟩ := h.build_eq
  obtain ⟨rights, hrights, -⟩ := BuildSide.load_eq_ok.mp h.outcome
  have hagain : (rescan left right s).state =
      ⟨(left.rescan s.left).state, s.right, s.build, .needLeft, false⟩ := by
    simp [rescan, hopen]
  have hheld := collect_held plan left right (s := (rescan left right s).state)
    (by rw [hagain, hbuild]; exact Option.some_ne_none table)
  have hfresh := h.collect_fresh (left.rescan s.left).state
  obtain ⟨pairs, hjoins⟩ := JoinPlan.joins_of_make hplan
  rw [hagain] at hheld ⊢
  refine ⟨rights, by rw [hbuild], hheld.1, hheld.2, hfresh, hrights, ?_⟩
  intro lefts out hlefts hleftWidths hrightWidths hout
  rw [hfresh]
  have hstreams := Streams.leftJoin hjoins left.streams_collect right.streams_collect hrightWidths
  refine (hstreams.collect ?_).1
  exact .unloaded rfl rfl hrights fun _ => .needLeft hlefts hleftWidths hout

/-- How a join goes on after a request that failed while its table was there. The join has got the
commands `commands` before that request, and it is `failed` after it. -/
structure StopsUntilRescan (plan : JoinPlan) (commands : List Command)
    (failed : Task (left.recorded.leftJoin right.recorded plan)) : Prop where
  /-- Until it is started over, the join answers every request with the end and stays as it is, and
  neither input is asked for a row. -/
  idle : ∀ more, .rescan ∉ more →
    let later := failed.run more
    next plan left.recorded right.recorded later.stopped later.state =
        ⟨.ok none, later.state, []⟩ ∧
      later.state.left.asked.count .next = failed.state.left.asked.count .next ∧
      later.state.right.asked.count .next = failed.state.right.asked.count .next
  /-- Once it is started over, after any number of further requests, it hands out the whole join of
  its left rows with the right rows that are in the table. These are all right rows, unless an
  earlier request had failed to build the table. -/
  recovers : ∀ n,
    let again := (rescan left.recorded right.recorded
      (failed.run (List.replicate n .next)).state).state
    ∃ t rights, Recovers plan failed.state again t rights ∧
      (t = right.recorded.start ∨
        BuildFailed left.recorded right.recorded plan commands)

/-- Whatever its inputs do and whatever it was told before, a join that fails with its table there,
or right after it has built the table, stops until it is started over, and then it loses none of the
rows that go with its table. -/
theorem stops_until_rescan {condition : Expr} {targets : Option (List Target)}
    (hplan : JoinPlan.make left.schema right.schema condition targets = .ok plan)
    (commands : List Command) {e : Failure}
    (hfails : (next plan left.recorded right.recorded (observed left right plan commands).stopped
      (observed left right plan commands).state).outcome = .error e)
    (htable : (observed left right plan commands).state.build.table ≠ none ∨
      ((observed left right plan commands).after .next).state.build.table ≠ none) :
    StopsUntilRescan plan commands ((observed left right plan commands).after .next) := by
  have hfinished : ((observed left right plan commands).after .next).state.phase = .finished :=
    finished_of_next hfails htable
  constructor
  case idle =>
    intro more hmore
    obtain ⟨hphase, hleft, hright⟩ := finished_run hfinished hmore
    exact ⟨next_finished hphase, hleft, hright⟩
  case recovers =>
    intro n
    rw [run_next_finished hfinished]
    obtain ⟨hopen, t, hbuilt, ht⟩ :=
      (origin_run left.recorded right.recorded plan commands).built_of_error hfails htable
    have hrecorded : JoinPlan.make left.recorded.schema right.recorded.schema condition targets =
        .ok plan := hplan
    obtain ⟨rights, hrecovers⟩ := hbuilt.recovers hrecorded hopen
    exact ⟨t, rights, hrecovers, ht⟩

/-- A left input that fails at its second row, in the middle of the join. -/
theorem stops_until_rescan_integers :
    let left := Operator.scripted (.failingAt 1 "a" [1, 2])
    let right := Operator.scan (.ofIntegers "b" [1])
    let condition := Expr.binary .equal (.column 0 .integer "a") (.column 1 .integer "b") .boolean
    let plan : JoinPlan := ⟨left.schema ++ right.schema, condition, none,
      .identity (left.schema ++ right.schema), [0], [0], 1⟩
    let task := observed left right plan [.next]
    JoinPlan.make left.schema right.schema condition none = .ok plan ∧
      task.state.build.table ≠ none ∧
      (next plan left.recorded right.recorded task.stopped task.state).outcome =
        .error (.internal "request failed") ∧
      StopsUntilRescan plan [.next] (task.after .next) := by
  intro left right condition plan task
  have hplan : JoinPlan.make left.schema right.schema condition none = .ok plan := rfl
  have hthere : task.state.build.table.isSome = true := by decide +kernel
  have htable : task.state.build.table ≠ none := Option.isSome_iff_ne_none.mp hthere
  have hfails : (next plan left.recorded right.recorded task.stopped task.state).outcome =
      .error (.internal "request failed") := by decide +kernel
  exact ⟨hplan, htable, hfails, stops_until_rescan hplan [.next] hfails (.inl htable)⟩

/-- A join that had failed to build its table, had built it from the right rows still to come and
then fails at its second left row. Once it is started over, a left row has lost its partner. -/
theorem not_stops_until_rescan_integers :
    let left := Operator.scripted (.failingAt 1 "a" [2, 1])
    let right := Operator.scripted (.failingAt 1 "b" [1])
    let condition := Expr.binary .equal (.column 0 .integer "a") (.column 1 .integer "b") .boolean
    let plan : JoinPlan := ⟨left.schema ++ right.schema, condition, none,
      .identity (left.schema ++ right.schema), [0], [0], 1⟩
    let task := (Task.start (left.leftJoin right plan)).run [.next, .next]
    let failed := (left.leftJoin right plan).next task.stopped task.state
    let again := (left.leftJoin right plan).rescan failed.state
    JoinPlan.make left.schema right.schema condition none = .ok plan ∧
      plan.rows [[.integer 1]] [[.integer 2], [.integer 1]] =
        .ok [[.integer 2, .null], [.integer 1, .integer 1]] ∧
      task.state.build.table ≠ none ∧ failed.outcome = .error (.internal "request failed") ∧
      again.outcome = .ok () ∧
      (left.collect false again.state.left).outcome = .ok [[.integer 2], [.integer 1]] ∧
      ((left.leftJoin right plan).collect false again.state).outcome =
        .ok [[.integer 2, .null], [.integer 1, .null]] := by
  intro left right condition plan task failed again
  have hthere : task.state.build.table.isSome = true := by decide +kernel
  exact ⟨rfl, rfl, Option.isSome_iff_ne_none.mp hthere, by decide +kernel, rfl, by decide +kernel,
    by decide +kernel⟩

end Join

end RowEngine
