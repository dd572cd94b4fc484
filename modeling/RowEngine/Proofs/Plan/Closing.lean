import RowEngine.Proofs.Join.Resources
import RowEngine.Proofs.Operator.Streaming
import RowEngine.Proofs.Plan.Monitoring
import RowEngine.Proofs.Value.Conforming

/-!
# Closed and stopped plans

Only scans, sorts and joins know whether they were closed, and starting over resets all else that
they know. A plan over scans is still at its end for good once it is closed, because every request
for a row comes down to one of these. A stopped task is noticed by sorts and joins alone, and
nothing under one of them is then asked for a row.
-/

namespace RowEngine

section

variable {child : Operator} {stopped : Bool} {s : child.State}

theorem Filter.next_idle (h : child.next stopped s = ⟨.ok none, s, []⟩) (predicate : Expr) :
    next child predicate stopped s = ⟨.ok none, s, []⟩ := by
  rw [next_end (by rw [h]), h]

theorem Project.next_idle (h : child.next stopped s = ⟨.ok none, s, []⟩)
    (projection : Projection) : next child projection stopped s = ⟨.ok none, s, []⟩ := by
  unfold next
  rw [h]

theorem Limit.next_idle {s : State child.State}
    (h : child.next stopped s.input = ⟨.ok none, s.input, []⟩) (count : Nat) :
    next child count stopped s = ⟨.ok none, s, []⟩ := by
  unfold next
  split
  · rfl
  · rw [h]
    rfl

theorem Sorting.next_idle {s : State child.State} (h : (s.closed || stopped) = true)
    (keys : List SortKey) : next child keys stopped s = ⟨.ok none, s, []⟩ :=
  if_pos h

end

namespace Operator

/-- An operator that never fails to close or to start over, and that has neither rows nor anything
to do for a request once it is shut, as closing leaves it and as it then stays. -/
structure Closes (op : Operator) (Shut : op.State → Prop) : Prop where
  close : ∀ s, (op.close s).outcome = .ok () ∧ Shut (op.close s).state ∧
    op.stats (op.close s).state = op.stats s
  rescan : ∀ s, (op.rescan s).outcome = .ok () ∧ (Shut s → Shut (op.rescan s).state) ∧
    op.stats (op.rescan s).state = op.stats s
  next : ∀ stopped s, Shut s → op.next stopped s = ⟨.ok none, s, []⟩

namespace Closes

variable {child left right : Operator} {Shut : child.State → Prop}

theorem scan (relation : Relation) :
    (Operator.scan relation).Closes fun s => s.closed = true where
  close _ := ⟨rfl, rfl, rfl⟩
  rescan _ := ⟨rfl, id, rfl⟩
  next _ _ h := if_pos h

theorem filter (h : child.Closes Shut) (predicate : Expr) :
    (child.filter predicate).Closes Shut where
  close := h.close
  rescan := h.rescan
  next stopped s hs := Filter.next_idle (h.next stopped s hs) predicate

theorem project (h : child.Closes Shut) (projection : Projection) :
    (child.project projection).Closes Shut where
  close := h.close
  rescan := h.rescan
  next stopped s hs := Project.next_idle (h.next stopped s hs) projection

theorem limit (h : child.Closes Shut) (count : Nat) :
    (child.limit count).Closes fun s => Shut s.input where
  close s := h.close s.input
  rescan s := h.rescan s.input
  next stopped s hs := Limit.next_idle (h.next stopped s.input hs) count

/-- A sort that was closed hands out nothing, whether or not it had drained its input. -/
theorem sort (h : child.Closes Shut) (keys : List SortKey) :
    (child.sort keys).Closes fun s => s.closed = true where
  close s := by
    obtain ⟨houtcome, -, hstats⟩ := h.close s.input
    change (Sorting.close child s).outcome = _ ∧ (Sorting.close child s).state.closed = _ ∧
      child.stats (Sorting.close child s).state.input = _
    unfold Sorting.close
    split
    · rename_i hclosed
      exact ⟨rfl, hclosed, rfl⟩
    · exact ⟨houtcome, rfl, hstats⟩
  rescan s := by
    obtain ⟨houtcome, -, hstats⟩ := h.rescan s.input
    change (Sorting.rescan child s).outcome = _ ∧
      (_ → (Sorting.rescan child s).state.closed = _) ∧
      child.stats (Sorting.rescan child s).state.input = _
    unfold Sorting.rescan
    split
    · exact ⟨rfl, id, rfl⟩
    · exact ⟨houtcome, id, hstats⟩
  next stopped s hs := Sorting.next_idle (by simp [hs]) keys

theorem leftJoin {ShutLeft : left.State → Prop} {ShutRight : right.State → Prop}
    (hleft : left.Closes ShutLeft) (hright : right.Closes ShutRight) (plan : JoinPlan) :
    (left.leftJoin right plan).Closes fun s => s.closed = true where
  close s := by
    obtain ⟨hleftOutcome, -, hleftStats⟩ := hleft.close s.left
    obtain ⟨hrightOutcome, -, hrightStats⟩ := hright.close s.right
    refine ⟨?_, Join.closed_close s, ?_⟩
    · change (Join.close left right s).outcome = _
      unfold Join.close
      split
      · rfl
      · simp only [hleftOutcome, hrightOutcome]
        rfl
    · change (left.stats (Join.close left right s).state.left).add
        (right.stats (Join.close left right s).state.right) = _
      unfold Join.close
      split
      · rfl
      · simp only [hleftStats, hrightStats]
        rfl
  rescan s := by
    obtain ⟨houtcome, -, hstats⟩ := hleft.rescan s.left
    exact ⟨houtcome, id, congrArg (Stats.add · (right.stats s.right)) hstats⟩
  next stopped s hs := Join.next_idle (by simp [hs])

theorem after (h : child.Closes Shut) {task : Task child} (hs : Shut task.state)
    (command : Command) : Shut (task.after command).state ∧
      child.stats (task.after command).state = child.stats task.state := by
  cases command with
  | next =>
    simp only [Task.after, h.next task.stopped task.state hs, and_true]
    exact hs
  | rescan =>
    obtain ⟨-, hshut, hstats⟩ := h.rescan task.state
    exact ⟨hshut hs, hstats⟩
  | close => exact (h.close task.state).2
  | stop => exact ⟨hs, rfl⟩

/-- Once shut, an operator stays so and its counts stay as they are. -/
theorem run (h : child.Closes Shut) {task : Task child} (hs : Shut task.state)
    (commands : List Command) : Shut (task.run commands).state ∧
      child.stats (task.run commands).state = child.stats task.state := by
  induction commands generalizing task with
  | nil => exact ⟨hs, rfl⟩
  | cons command commands ih =>
    obtain ⟨hshut, hstats⟩ := h.after hs command
    obtain ⟨hrun, hsame⟩ := ih hshut
    exact ⟨hrun, hsame.trans hstats⟩

end Closes

/-- An operator that does nothing for a request of a stopped task. -/
def Gates (op : Operator) : Prop := ∀ s, op.next true s = ⟨.ok none, s, []⟩

namespace Gates

variable {child : Operator}

theorem filter (h : child.Gates) (predicate : Expr) : (child.filter predicate).Gates :=
  fun s => Filter.next_idle (h s) predicate

theorem project (h : child.Gates) (projection : Projection) : (child.project projection).Gates :=
  fun s => Project.next_idle (h s) projection

theorem limit (h : child.Gates) (count : Nat) : (child.limit count).Gates :=
  fun s => Limit.next_idle (h s.input) count

theorem sort (child : Operator) (keys : List SortKey) : (child.sort keys).Gates :=
  fun _ => Sorting.next_idle (Bool.or_true _) keys

theorem leftJoin (left right : Operator) (plan : JoinPlan) : (left.leftJoin right plan).Gates := by
  intro s
  change Join.next plan left right true s = _
  exact Join.next_idle rfl

end Gates

end Operator

namespace Plan

open Operator

def OverScans : Plan → Prop
  | scan _ => True
  | scripted _ => False
  | filter input _ | project input _ | limit input _ | sort input _ => input.OverScans
  | join left right _ => left.OverScans ∧ right.OverScans

/-- The induction is on the tree, and what it is for a node to be shut is made from what it is for
its inputs. -/
theorem OverScans.closes {p : Plan} (h : p.OverScans) :
    ∃ Shut : p.operator.State → Prop, p.operator.Closes Shut := by
  induction p with
  | scan relation => exact ⟨_, .scan relation⟩
  | scripted script => exact h.elim
  | filter input predicate ih =>
    obtain ⟨Shut, hinput⟩ := ih h
    exact ⟨_, hinput.filter predicate⟩
  | project input projection ih =>
    obtain ⟨Shut, hinput⟩ := ih h
    exact ⟨_, hinput.project projection⟩
  | limit input count ih =>
    obtain ⟨Shut, hinput⟩ := ih h
    exact ⟨_, hinput.limit count⟩
  | sort input keys ih =>
    obtain ⟨Shut, hinput⟩ := ih h
    exact ⟨_, hinput.sort keys⟩
  | join left right plan ihleft ihright =>
    obtain ⟨ShutLeft, hleft⟩ := ihleft h.1
    obtain ⟨ShutRight, hright⟩ := ihright h.2
    exact ⟨_, hleft.leftJoin hright plan⟩

/-- What is to be said of a plan that was closed when its leaves had handed out `stats`. -/
structure AtRest (p : Plan) (stats : Stats) (task : Task p.operator) : Prop where
  next : (p.operator.next task.stopped task.state).outcome = .ok none
  rescan : (p.operator.rescan task.state).outcome = .ok ()
  close : (p.operator.close task.state).outcome = .ok ()
  stats_eq : p.operator.stats task.state = stats

/-- A sort or a join, or filters, projections and limits above one. -/
def Gated : Plan → Prop
  | scan _ | scripted _ => False
  | filter input _ | project input _ | limit input _ => input.Gated
  | sort _ _ | join _ _ _ => True

/-- The induction is on what stands above the sort or the join. -/
theorem Gated.gates {p : Plan} (h : p.Gated) : p.monitored.Gates := by
  induction p with
  | scan relation => exact h.elim
  | scripted script => exact h.elim
  | filter input predicate ih => exact (ih h).filter predicate
  | project input projection ih => exact (ih h).project projection
  | limit input count ih => exact (ih h).limit count
  | sort input keys => exact .sort input.monitored keys
  | join left right plan => exact .leftJoin left.monitored right.monitored plan

theorem pulls_join (left right : Plan) (plan : JoinPlan)
    (s : (join left right plan).monitored.State) :
    (join left right plan).pulls s = left.pulls s.left ++ right.pulls s.right :=
  List.map_append

theorem count_next_append (asked : List Command) {command : Command} (h : command ≠ .next) :
    (asked ++ [command]).count .next = asked.count .next := by
  simp [h]

/-- Starting over pulls no row from any leaf. -/
theorem pulls_rescan (p : Plan) (s : p.monitored.State) :
    p.pulls (p.monitored.rescan s).state = p.pulls s := by
  induction p with
  | scan relation => exact congrArg (fun n => [n]) (count_next_append s.asked nofun)
  | scripted script => exact congrArg (fun n => [n]) (count_next_append s.asked nofun)
  | filter input predicate ih => exact ih s
  | project input projection ih => exact ih s
  | limit input count ih => exact ih s.input
  | sort input keys ih =>
    change input.pulls (Sorting.rescan input.monitored s).state.input = input.pulls s.input
    unfold Sorting.rescan
    split
    · rfl
    · exact ih s.input
  | join left right plan ihleft =>
    rw [pulls_join, pulls_join]
    exact congrArg (· ++ right.pulls s.right) (ihleft s.left)

/-- Closing pulls no row from any leaf. -/
theorem pulls_close (p : Plan) (s : p.monitored.State) :
    p.pulls (p.monitored.close s).state = p.pulls s := by
  induction p with
  | scan relation => exact congrArg (fun n => [n]) (count_next_append s.asked nofun)
  | scripted script => exact congrArg (fun n => [n]) (count_next_append s.asked nofun)
  | filter input predicate ih => exact ih s
  | project input projection ih => exact ih s
  | limit input count ih => exact ih s.input
  | sort input keys ih =>
    change input.pulls (Sorting.close input.monitored s).state.input = input.pulls s.input
    unfold Sorting.close
    split
    · rfl
    · exact ih s.input
  | join left right plan ihleft ihright =>
    rw [pulls_join, pulls_join, ← ihleft s.left, ← ihright s.right]
    change left.pulls (Join.close left.monitored right.monitored s).state.left ++
      right.pulls (Join.close left.monitored right.monitored s).state.right = _
    unfold Join.close
    split
    · rw [ihleft, ihright]
    · rfl

theorem Gated.pulls_after {p : Plan} (h : p.Gated) {task : Task p.monitored}
    (hstopped : task.stopped = true) (command : Command) :
    (task.after command).stopped = true ∧
      p.pulls (task.after command).state = p.pulls task.state := by
  cases command with
  | next =>
    simp only [Task.after, hstopped, h.gates task.state, and_self]
  | rescan => exact ⟨hstopped, p.pulls_rescan task.state⟩
  | close => exact ⟨hstopped, p.pulls_close task.state⟩
  | stop => exact ⟨rfl, rfl⟩

/-- After a stop, no command pulls a row from any leaf. -/
theorem Gated.pulls_run {p : Plan} (h : p.Gated) {task : Task p.monitored}
    (hstopped : task.stopped = true) (commands : List Command) :
    (task.run commands).stopped = true ∧
      p.pulls (task.run commands).state = p.pulls task.state := by
  induction commands generalizing task with
  | nil => exact ⟨hstopped, rfl⟩
  | cons command commands ih =>
    obtain ⟨hafter, hpulls⟩ := h.pulls_after hstopped command
    obtain ⟨hrun, hsame⟩ := ih hafter
    exact ⟨hrun, hsame.trans hpulls⟩

/-- What is to be said of a plan that was stopped when its leaves had been asked for `pulls` rows,
where `task` is the plan over leaves that remember what they are asked, after `commands`. -/
structure Halted (p : Plan) (pulls : List Nat) (commands : List Command)
    (task : Task p.monitored) : Prop where
  /-- That the leaves remember makes no difference to the plan. -/
  plain : p.forget task.state = ((Task.start p.operator).run commands).state
  next : (p.operator.next task.stopped (p.forget task.state)).outcome = .ok none
  pulls_next : p.pulls (p.monitored.next task.stopped task.state).state = pulls
  pulls_eq : p.pulls task.state = pulls

/-- Whatever a plan was told before and is told later: over scans, once it is closed it has no more
rows, it starts over and closes without failing and its statistics stay as they are; and where
there is a sort or a join on the way to the leaves, once it is stopped it has no more rows and asks
no leaf for one. -/
theorem stays_closed_and_stopped (p : Plan) (before later : List Command) :
    (p.OverScans →
      let closed := (Task.start p.operator).run (before ++ [.close])
      p.AtRest (p.operator.stats closed.state) (closed.run later)) ∧
    (p.Gated →
      let stopped := (Task.start p.monitored).run (before ++ [.stop])
      p.Halted (p.pulls stopped.state) (before ++ [.stop] ++ later) (stopped.run later)) := by
  constructor
  · intro hscans closed
    obtain ⟨Shut, hcloses⟩ := hscans.closes
    have hclosed : Shut closed.state := by
      simp only [closed, Task.run, List.foldl_append]
      exact (hcloses.close _).2.1
    obtain ⟨hshut, hstats⟩ := hcloses.run hclosed later
    exact ⟨by rw [hcloses.next _ _ hshut], (hcloses.rescan _).1, (hcloses.close _).1, hstats⟩
  · intro hgated stopped
    have hstopped : stopped.stopped = true := by simp [stopped, Task.stopped_run]
    obtain ⟨hrun, hpulls⟩ := hgated.pulls_run hstopped later
    have hnext := hgated.gates (stopped.run later).state
    constructor
    case plain =>
      rw [← p.monitored_extends.state_run]
      simp only [stopped, Task.run, List.foldl_append]
    case next => rw [hrun, p.monitored_extends.outcome_next, hnext]
    case pulls_next => rw [hrun, hnext, hpulls]
    case pulls_eq => exact hpulls

/-- A limit over a sort that is asked for a row, then closed or stopped, and started over. -/
theorem stays_closed_and_stopped_sort :
    let p := ((scan (.ofIntegers "n" [3, 1, 2])).sort [⟨0, true, false⟩]).limit 2
    let closed := (Task.start p.operator).run [.next, .close]
    let stopped := (Task.start p.monitored).run [.next, .stop]
    p.OverScans ∧ p.AtRest (p.operator.stats closed.state) (closed.run [.rescan, .next]) ∧
    p.Gated ∧ p.Halted (p.pulls stopped.state) [.next, .stop, .rescan] (stopped.run [.rescan]) := by
  intro p closed stopped
  have hscans : p.OverScans := trivial
  have hgated : p.Gated := trivial
  exact ⟨hscans, (stays_closed_and_stopped p [.next] [.rescan, .next]).1 hscans, hgated,
    (stays_closed_and_stopped p [.next] [.rescan]).2 hgated⟩

end Plan

end RowEngine
