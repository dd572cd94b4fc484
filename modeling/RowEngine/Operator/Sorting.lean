import RowEngine.Operator.Basic
import RowEngine.SortKey

/-!
# Sorting

At the first request a sort drains its input and sorts the rows; from then on it answers from the
sorted rows, also after it is started over. Rows that no key tells apart keep their order. If the
input fails while it is drained, the rows taken so far are lost and the next request drains it
again, from where it was left.
-/

namespace RowEngine

namespace Sorting

inductive Phase where
  | unsorted
  | sorted (rows : List Row) (cursor : Nat)

structure State (σ : Type) where
  input : σ
  phase : Phase
  closed : Bool

def sortRows (keys : List SortKey) (rows : List Row) : List Row :=
  rows.mergeSort fun a b => SortKey.compareRows keys a.view b.view != .gt

/-- The row under the cursor, which then moves on. -/
def emit (rows : List Row) (cursor : Nat) : Option Row × Phase :=
  match rows[cursor]? with
  | some row => (some row, .sorted rows (cursor + 1))
  | none => (none, .sorted rows cursor)

def next (child : Operator) (keys : List SortKey) (stopped : Bool) (s : State child.State) :
    Step (State child.State) (Option Row) :=
  if s.closed || stopped then ⟨.ok none, s, []⟩
  else
    match s.phase with
    | .sorted rows cursor =>
      let (row, phase) := emit rows cursor
      ⟨.ok row, { s with phase }, []⟩
    | .unsorted =>
      let step := child.collect stopped s.input
      match step.outcome with
      | .error e => ⟨.error e, { s with input := step.state }, step.events⟩
      | .ok rows =>
        let (row, phase) := emit (sortRows keys rows) 0
        ⟨.ok row, ⟨step.state, phase, s.closed⟩,
          step.events ++ [.log (.sortMaterialized rows.length keys.length)]⟩

/-- Sorted rows are replayed; an input that was never drained is started over. -/
def rescan (child : Operator) (s : State child.State) : Step (State child.State) Unit :=
  match s.phase with
  | .sorted rows _ => ⟨.ok (), { s with phase := .sorted rows 0 }, []⟩
  | .unsorted => (child.rescan s.input).lift fun input => { s with input }

def close (child : Operator) (s : State child.State) : Step (State child.State) Unit :=
  if s.closed then ⟨.ok (), s, []⟩
  else (child.close s.input).lift (⟨·, .unsorted, true⟩)

/-- The rows that are still to come: the rest of the sorted rows, or all of the input. -/
def remaining (child : Operator) (s : State child.State) : Nat :=
  match s.phase with
  | .sorted rows cursor => rows.length - cursor
  | .unsorted => child.remaining s.input

theorem remaining_emit (child : Operator) (rows : List Row) (cursor : Nat) (input : child.State)
    (closed : Bool) :
    remaining child ⟨input, (emit rows cursor).2, closed⟩ + rowCount (.ok (emit rows cursor).1) ≤
      rows.length - cursor := by
  unfold emit
  split
  · rename_i h
    have := (List.getElem?_eq_some_iff.mp h).1
    simp only [remaining, rowCount_some]
    omega
  · simp [remaining]

/-- The rows that the first request drains are all still to come, but for the one it hands out. -/
theorem next_remaining (child : Operator) (keys : List SortKey) (stopped : Bool)
    (s : State child.State) :
    remaining child (next child keys stopped s).state +
      rowCount (next child keys stopped s).outcome ≤ remaining child s := by
  unfold next
  split
  · simp
  · split
    · rename_i rows cursor h
      simpa [remaining, h] using remaining_emit child rows cursor s.input s.closed
    · rename_i h
      simp only
      split
      · simpa [remaining, h] using child.remaining_collect_le stopped s.input
      · rename_i rows hrows
        have hcollect := child.length_collect_le stopped s.input hrows
        have hemit := remaining_emit child (sortRows keys rows) 0
          (child.collect stopped s.input).state s.closed
        have hlength : (sortRows keys rows).length = rows.length := by simp [sortRows]
        simp only [hlength, remaining, h] at hemit ⊢
        omega

end Sorting

namespace Operator

def sort (child : Operator) (keys : List SortKey) : Operator where
  State := Sorting.State child.State
  schema := child.schema
  start := ⟨child.start, .unsorted, false⟩
  next := Sorting.next child keys
  rescan := Sorting.rescan child
  close := Sorting.close child
  stats s := child.stats s.input
  remaining := Sorting.remaining child
  next_remaining := Sorting.next_remaining child keys

end Operator

end RowEngine
