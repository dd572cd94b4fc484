import RowEngine.Operator.Basic
import RowEngine.Projection

/-!
# Operators that pass rows through

A filter passes the rows on which its predicate is true, a projection writes a row for each row, and
a limit ends after a number of rows, without asking its input again. None of them holds rows of its
own. A row on which an expression fails is gone: the next request goes on with the row after it.
-/

namespace RowEngine

namespace Filter

def next (child : Operator) (predicate : Expr) (stopped : Bool) (s : child.State) :
    Step child.State (Option Row) :=
  let step := child.next stopped s
  match _ : step.outcome with
  | .error e => ⟨.error e, step.state, step.events⟩
  | .ok none => ⟨.ok none, step.state, step.events⟩
  | .ok (some row) =>
    let verdict := predicate.holds child.schema row.view
    let events := step.events ++ verdict.events
    match verdict.outcome with
    | .error e => ⟨.error e, step.state, events⟩
    | .ok true => ⟨.ok (some row), step.state, events⟩
    | .ok false => (next child predicate stopped step.state).after events
termination_by child.remaining s
decreasing_by exact child.remaining_lt ‹_›

/-- A row that is dropped is paid for and not handed out. -/
theorem next_remaining (child : Operator) (predicate : Expr) (stopped : Bool) (s : child.State) :
    child.remaining (next child predicate stopped s).state +
      rowCount (next child predicate stopped s).outcome ≤ child.remaining s := by
  fun_induction next child predicate stopped s with
  | case1 s step => exact child.remaining_le stopped s
  | case2 s step => exact child.remaining_le stopped s
  | case3 s step => exact child.remaining_le stopped s
  | case4 s step row h => exact child.remaining_lt h
  | case5 s step row h _ _ _ ih => exact Nat.le_trans ih (child.remaining_le stopped s)

end Filter

namespace Operator

def filter (child : Operator) (predicate : Expr) : Operator where
  State := child.State
  schema := child.schema
  start := child.start
  next := Filter.next child predicate
  rescan := child.rescan
  close := child.close
  stats := child.stats
  remaining := child.remaining
  next_remaining := Filter.next_remaining child predicate

end Operator

namespace Project

def next (child : Operator) (projection : Projection) (stopped : Bool) (s : child.State) :
    Step child.State (Option Row) :=
  let step := child.next stopped s
  match step.outcome with
  | .error e => ⟨.error e, step.state, step.events⟩
  | .ok none => ⟨.ok none, step.state, step.events⟩
  | .ok (some row) =>
    let output := projection.apply row.view
    ⟨output.outcome.map some, step.state, step.events ++ output.events⟩

end Project

namespace Operator

def project (child : Operator) (projection : Projection) : Operator where
  State := child.State
  schema := projection.output
  start := child.start
  next := Project.next child projection
  rescan := child.rescan
  close := child.close
  stats := child.stats
  remaining := child.remaining
  next_remaining stopped s := by
    unfold Project.next
    dsimp only
    split
    · exact child.remaining_le stopped s
    · exact child.remaining_le stopped s
    · rename_i row h
      have := child.remaining_lt h
      cases (projection.apply row.view).outcome with
      | error e => exact Nat.le_of_lt this
      | ok out => exact this

end Operator

namespace Limit

structure State (σ : Type) where
  input : σ
  /-- The rows handed out since the last start. -/
  emitted : Nat

def next (child : Operator) (count : Nat) (stopped : Bool) (s : State child.State) :
    Step (State child.State) (Option Row) :=
  if count ≤ s.emitted then ⟨.ok none, s, []⟩
  else
    let step := child.next stopped s.input
    ⟨step.outcome, ⟨step.state, s.emitted + rowCount step.outcome⟩, step.events⟩

/-- The count starts over even if the input cannot. -/
def rescan (child : Operator) (s : State child.State) : Step (State child.State) Unit :=
  (child.rescan s.input).lift (⟨·, 0⟩)

end Limit

namespace Operator

def limit (child : Operator) (count : Nat) : Operator where
  State := Limit.State child.State
  schema := child.schema
  start := ⟨child.start, 0⟩
  next := Limit.next child count
  rescan := Limit.rescan child
  close s := (child.close s.input).lift (⟨·, s.emitted⟩)
  stats s := child.stats s.input
  remaining s := child.remaining s.input
  next_remaining stopped s := by
    unfold Limit.next
    split
    · simp
    · exact child.next_remaining stopped s.input

end Operator

end RowEngine
