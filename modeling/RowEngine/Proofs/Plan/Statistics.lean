import Mathlib.Algebra.Order.BigOperators.Group.List
import Mathlib.Algebra.Order.Ring.Nat
import RowEngine.Proofs.Operator.Answers
import RowEngine.Proofs.Operator.Keeping
import RowEngine.Proofs.Plan.Closing

/-!
# Statistics of plans

The statistics of a plan over scans are what one count over all rows that its leaves have handed out
comes to, each row as often as it was handed out. Counts that stop at the largest one can be added
in any order and in any groups: what is above the largest count is never seen again.
-/

namespace RowEngine

/-- A sum does not tell whether its parts were cut off at the largest count. -/
theorem addCounts_min_left (a b : Nat) : addCounts (min a maxCount) b = min (a + b) maxCount := by
  unfold addCounts
  omega

theorem addCounts_min (a b : Nat) :
    addCounts (min a maxCount) (min b maxCount) = min (a + b) maxCount := by
  rw [addCounts_min_left]
  omega

namespace Stats

/-- The counts of some rows. -/
def ofRows (rows : List Row) : Stats where
  rows := min rows.length maxCount
  bytes := min (rows.map Row.size).sum maxCount
  readBytes := min (rows.map Row.size).sum maxCount

structure AtMost (a b : Stats) : Prop where
  rows : a.rows ≤ b.rows
  bytes : a.bytes ≤ b.bytes
  readBytes : a.readBytes ≤ b.readBytes

theorem ofRows_nil : ofRows [] = zero := by
  simp [ofRows, zero]

theorem ofRows_append (rows more : List Row) :
    ofRows (rows ++ more) = (ofRows rows).add (ofRows more) := by
  simp [ofRows, add, addCounts_min]

theorem ofRows_concat (rows : List Row) (row : Row) :
    ofRows (rows ++ [row]) = (ofRows rows).addRow row.size := by
  simp [ofRows, addRow, add, addCounts_min_left]

/-- More rows count for at least as much, also where the counts are saturated. -/
theorem ofRows_atMost {rows more : List Row} (h : rows.Sublist more) :
    (ofRows rows).AtMost (ofRows more) := by
  have hbytes : (rows.map Row.size).sum ≤ (more.map Row.size).sum :=
    (h.map Row.size).sum_le_sum fun _ _ => Nat.zero_le _
  exact ⟨min_le_min_right _ h.length_le, min_le_min_right _ hbytes, min_le_min_right _ hbytes⟩

end Stats

/-- A scan that has counted some rows counts the one that it hands out, if it does. -/
theorem Scan.stats_next {rows before : List Row} {s : State} (h : s.stats = .ofRows before) :
    (next rows s).state.stats =
      .ofRows (before ++ (next rows s).outcome.toOption.join.toList) := by
  unfold next
  split
  · simpa [Except.toOption] using h
  · split
    · simpa [Except.toOption] using h
    · rename_i row hrow
      change s.stats.addRow row.size = .ofRows (before ++ [row])
      rw [h, Stats.ofRows_concat]

namespace Operator

variable {op : Operator}

/-- The rows that are handed out while some commands are carried out. -/
def Task.rows (task : Task op) (commands : List Command) : List Row :=
  (task.answers commands).filterMap (·.toOption.join)

theorem Task.rows_append (task : Task op) (commands more : List Command) :
    task.rows (commands ++ more) = task.rows commands ++ (task.run commands).rows more := by
  rw [rows, answers_append, List.filterMap_append]
  rfl

@[simp] theorem Task.rows_nil (task : Task op) : task.rows [] = [] := rfl

theorem Task.rows_next (task : Task op) (commands : List Command) :
    task.rows (.next :: commands) =
      (op.next task.stopped task.state).outcome.toOption.join.toList ++
        (task.after .next).rows commands := by
  unfold rows
  rw [answers, List.filterMap_cons]
  cases (op.next task.stopped task.state).outcome.toOption.join <;> rfl

/-- A scan that has counted some rows goes on to count those that it hands out. -/
theorem stats_run_scan {relation : Relation} {task : Task (Operator.scan relation)}
    {before : List Row} (h : task.state.stats = .ofRows before) (commands : List Command) :
    (task.run commands).state.stats = .ofRows (before ++ task.rows commands) := by
  induction commands generalizing task before with
  | nil => simpa [Task.run] using h
  | cons command commands ih =>
    change ((task.after command).run commands).state.stats = _
    cases command with
    | next =>
      rw [Task.rows_next, ← List.append_assoc]
      exact ih (Scan.stats_next h)
    | rescan | close | stop => exact ih h

/-- Between two moments an operator that remembers what it is asked was given some commands, and it
stands where these lead. -/
def Resumes (op : Operator) (s t : op.recorded.State) : Prop :=
  ∃ more, t.asked = s.asked ++ more ∧ t.input = (Task.run ⟨s.input, false⟩ more).state

/-- Nothing but the state matters to an operator that takes no notice of its task being stopped. -/
theorem Task.state_after_congr (hstopped : ∀ stopped s, op.next stopped s = op.next false s)
    {t u : Task op} (h : t.state = u.state) (command : Command) :
    (t.after command).state = (u.after command).state := by
  cases command with
  | next => simp only [after, h, hstopped t.stopped, hstopped u.stopped]
  | rescan | close => simp only [after, h]
  | stop => exact h

theorem Resumes.after (hstopped : ∀ stopped s, op.next stopped s = op.next false s)
    {s t : op.recorded.State} (h : op.Resumes s t) (stopped : Bool) (command : Command) :
    op.Resumes s ⟨(Task.after ⟨t.input, stopped⟩ command).state, t.asked ++ [command]⟩ := by
  obtain ⟨more, hasked, hstate⟩ := h
  refine ⟨more ++ [command], ?_, ?_⟩
  · rw [hasked, List.append_assoc]
  · rw [Task.run_append]
    exact Task.state_after_congr hstopped hstate command

theorem keeps_resumes (hstopped : ∀ stopped s, op.next stopped s = op.next false s)
    (s : op.recorded.State) : op.recorded.Keeps (op.Resumes s) where
  next stopped _ h := h.after hstopped stopped .next
  rescan _ h := h.after hstopped false .rescan
  close _ h := h.after hstopped false .close

theorem Resumes.rows_sublist {s t : op.recorded.State} (h : op.Resumes s t) (task : Task op) :
    (task.rows s.asked).Sublist (task.rows t.asked) := by
  obtain ⟨more, hasked, -⟩ := h
  rw [hasked, Task.rows_append]
  exact List.sublist_append_left _ _

end Operator

namespace Plan

open Operator

/-- The rows that each leaf has handed out for what it has been asked, left to right. -/
def handed : (p : Plan) → p.monitored.State → List (List Row)
  | scan relation, s => [(Task.start (.scan relation)).rows s.asked]
  | scripted script, s => [(Task.start (.scripted script)).rows s.asked]
  | filter input _, s => input.handed s
  | project input _, s => input.handed s
  | limit input _, s => input.handed s.input
  | sort input _, s => input.handed s.input
  | join left right _, s => left.handed s.left ++ right.handed s.right

/-- Each leaf has been given some commands on the way from `s` to `t`, and stands where these lead.
-/
def Resumes : (p : Plan) → p.monitored.State → p.monitored.State → Prop
  | scan relation, s, t => (Operator.scan relation).Resumes s t
  | scripted script, s, t => (Operator.scripted script).Resumes s t
  | filter input _, s, t => input.Resumes s t
  | project input _, s, t => input.Resumes s t
  | limit input _, s, t => input.Resumes s.input t.input
  | sort input _, s, t => input.Resumes s.input t.input
  | join left right _, s, t => left.Resumes s.left t.left ∧ right.Resumes s.right t.right

theorem Resumes.refl (p : Plan) (s : p.monitored.State) : p.Resumes s s := by
  induction p with
  | scan | scripted => exact ⟨[], (List.append_nil _).symm, rfl⟩
  | filter _ _ ih | project _ _ ih => exact ih s
  | limit _ _ ih | sort _ _ ih => exact ih s.input
  | join _ _ _ ihleft ihright => exact ⟨ihleft s.left, ihright s.right⟩

/-- Commands only add to what the leaves were asked. -/
theorem keeps_resumes (p : Plan) (s : p.monitored.State) : p.monitored.Keeps (p.Resumes s) := by
  induction p with
  | scan relation => exact Operator.keeps_resumes (fun _ _ => rfl) s
  | scripted script => exact Operator.keeps_resumes (fun _ _ => rfl) s
  | filter input predicate ih => exact (ih s).filter predicate
  | project input projection ih => exact (ih s).project projection
  | limit input count ih => exact (ih s.input).limit count
  | sort input keys ih => exact (ih s.input).sort keys
  | join left right plan ihleft ihright => exact (ihleft s.left).leftJoin (ihright s.right) plan

/-- However a plan got where it is, it goes on from there. -/
theorem resumes_run {p : Plan} (task : Task p.monitored) (commands : List Command) :
    p.Resumes task.state (task.run commands).state :=
  (p.keeps_resumes task.state).run (.refl p task.state) commands

/-- What the leaves have handed out goes on growing. -/
theorem Resumes.handed_sublist {p : Plan} {s t : p.monitored.State} (h : p.Resumes s t) :
    (p.handed s).flatten.Sublist (p.handed t).flatten := by
  induction p with
  | scan | scripted => simpa [handed] using h.rows_sublist _
  | filter _ _ ih | project _ _ ih | limit _ _ ih | sort _ _ ih => exact ih h
  | join left right _ ihleft ihright =>
    simpa [handed] using (ihleft h.1).append (ihright h.2)

/-- The counts of a plan over scans are those of all rows that its leaves handed out. -/
theorem OverScans.stats_eq {p : Plan} (h : p.OverScans) {s : p.monitored.State}
    (hs : p.Resumes p.monitored.start s) :
    p.operator.stats (p.forget s) = .ofRows (p.handed s).flatten := by
  induction p with
  | scan relation =>
    obtain ⟨commands, hasked, hstate⟩ := hs
    have hcounts : ((Task.start (Operator.scan relation)).run commands).state.stats = _ :=
      stats_run_scan Stats.ofRows_nil.symm commands
    rw [handed, List.flatten_singleton, hasked]
    exact (congrArg Scan.State.stats hstate).trans hcounts
  | scripted script => exact h.elim
  | filter _ _ ih | project _ _ ih | limit _ _ ih | sort _ _ ih => exact ih h hs
  | join left right _ ihleft ihright =>
    rw [handed, List.flatten_append, Stats.ofRows_append, ← ihleft h.1 hs.1, ← ihright h.2 hs.2]
    rfl

/-- What is to be said of the statistics of a plan after `commands`, where `task` is the plan over
leaves that remember what they are asked. -/
structure Counts (p : Plan) (commands : List Command) (task : Task p.monitored) : Prop where
  /-- That the leaves remember makes no difference to the plan. -/
  plain : p.forget task.state = ((Task.start p.operator).run commands).state
  /-- What the leaves have been asked is what brought them where they are. -/
  resumes : p.Resumes p.monitored.start task.state
  /-- The plan has counted all rows that its leaves have handed out. -/
  rows : (p.operator.stats (p.forget task.state)).rows =
    min (p.handed task.state).flatten.length maxCount
  bytes : (p.operator.stats (p.forget task.state)).bytes =
    min ((p.handed task.state).flatten.map Row.size).sum maxCount
  readBytes : (p.operator.stats (p.forget task.state)).readBytes =
    min ((p.handed task.state).flatten.map Row.size).sum maxCount
  /-- No count decreases, whatever the plan is told later. -/
  grows : ∀ more, (p.operator.stats (p.forget task.state)).AtMost
    (p.operator.stats (p.forget (task.run more).state))

/-- Whatever a plan over scans is told and whatever fails, its statistics count the rows that its
leaves have handed out. -/
theorem counts_handed {p : Plan} (h : p.OverScans) (commands : List Command) :
    p.Counts commands ((Task.start p.monitored).run commands) := by
  have hresumes := resumes_run (Task.start p.monitored) commands
  have hstats := h.stats_eq hresumes
  constructor
  case plain => exact p.monitored_extends.state_run commands
  case resumes => exact hresumes
  case rows => rw [hstats]; rfl
  case bytes => rw [hstats]; rfl
  case readBytes => rw [hstats]; rfl
  case grows =>
    intro more
    have hmore := resumes_run ((Task.start p.monitored).run commands) more
    have hlater := resumes_run (Task.start p.monitored) (commands ++ more)
    rw [Task.run_append] at hlater
    rw [hstats, h.stats_eq hlater]
    exact Stats.ofRows_atMost hmore.handed_sublist

/-- A join that is started over and reads its right input no more, though it reads its left one
again. -/
theorem counts_handed_integers :
    let left := scan (.ofIntegers "a" [1, 2])
    let right := scan (.ofIntegers "b" [1, 2, 3])
    let input := left.schema ++ right.schema
    let condition := Expr.binary .equal (.column 0 .integer "a") (.column 1 .integer "b") .boolean
    let p := left.join right ⟨input, condition, none, .identity input, [0], [0], 1⟩
    let commands : List Command := [.next, .rescan, .next, .close]
    p.OverScans ∧ p.Counts commands ((Task.start p.monitored).run commands) ∧
      p.operator.stats ((Task.start p.operator).run commands).state = ⟨5, 40, 40⟩ := by
  intro left right input condition p commands
  have hscans : p.OverScans := ⟨trivial, trivial⟩
  exact ⟨hscans, counts_handed hscans commands, by decide +kernel⟩

end Plan

end RowEngine
