import RowEngine.Operator.Basic
import RowEngine.Schema

/-!
# Leaves

A scan hands out the rows of a table held in memory. A script is a leaf for trying out how operators
deal with faults: it says at which requests it fails, and it counts the requests.
-/

namespace RowEngine

/-- The rows of a table, each with one value for each column. -/
structure Relation where
  schema : Schema
  rows : List Row
  full : ∀ row ∈ rows, row.length = schema.size

namespace Relation

def columnsText (n : Nat) : String := s!"{n} columns"

/-- The failure for the first row of another width, `before` being the number of rows before these.
-/
def misfit? (width : Nat) (before : Nat) : List Row → Option Failure
  | [] => none
  | row :: rest =>
    if row.length = width then misfit? width (before + 1) rest
    else some (.typeMismatch (columnsText width) (columnsText row.length)
      s!"row {before} of scan fragment")

/-- Where no row is found to be a misfit, all rows have the width. -/
theorem full_of_misfit? {width before : Nat} {rows : List Row}
    (h : misfit? width before rows = none) : ∀ row ∈ rows, row.length = width := by
  induction rows generalizing before with
  | nil => simp
  | cons row rest ih =>
    unfold misfit? at h
    split at h
    · rename_i hrow
      simpa [hrow] using ih h
    · simp at h

def make (schema : Schema) (rows : List Row) : Except Failure Relation :=
  match h : misfit? schema.size 0 rows with
  | some failure => .error failure
  | none => .ok ⟨schema, rows, full_of_misfit? h⟩

end Relation

namespace Scan

structure State where
  /-- The number of rows handed out since the start. -/
  cursor : Nat
  stats : Stats
  closed : Bool

def next (rows : List Row) (s : State) : Step State (Option Row) :=
  if s.closed then ⟨.ok none, s, []⟩
  else
    match rows[s.cursor]? with
    | none => ⟨.ok none, s, []⟩
    | some row =>
      ⟨.ok (some row), { s with cursor := s.cursor + 1, stats := s.stats.addRow row.size },
        [.read row]⟩

def rescan (s : State) : Step State Unit :=
  ⟨.ok (), { s with cursor := 0 }, [.log (.scanRescanned s.cursor)]⟩

end Scan

namespace Operator

def scan (relation : Relation) : Operator where
  State := Scan.State
  schema := relation.schema
  start := ⟨0, .zero, false⟩
  next _ s := Scan.next relation.rows s
  rescan := Scan.rescan
  close s := ⟨.ok (), { s with closed := true }, []⟩
  stats := Scan.State.stats
  remaining s := relation.rows.length - s.cursor
  next_remaining _ s := by
    unfold Scan.next
    split
    · simp
    · split
      · simp
      · rename_i h
        have := (List.getElem?_eq_some_iff.mp h).1
        simp only [rowCount_some]
        omega

end Operator

structure Script where
  schema : Schema
  rows : List Row
  /-- The failure of the request of this number, if it fails; requests are counted from zero. -/
  pullFault : Nat → Option Failure
  rescanFault : Option Failure
  closeFault : Option Failure
  stats : Stats

namespace Script

structure State where
  cursor : Nat
  pulls : Nat
  rescans : Nat
  closes : Nat

/-- A request that fails hands out nothing and leaves the cursor where it is. -/
def next (script : Script) (s : State) : Step State (Option Row) :=
  let counted := { s with pulls := s.pulls + 1 }
  match script.pullFault s.pulls with
  | some failure => ⟨.error failure, counted, []⟩
  | none =>
    match script.rows[s.cursor]? with
    | none => ⟨.ok none, counted, []⟩
    | some row => ⟨.ok (some row), { counted with cursor := s.cursor + 1 }, []⟩

def rescan (script : Script) (s : State) : Step State Unit :=
  let counted := { s with rescans := s.rescans + 1 }
  match script.rescanFault with
  | some failure => ⟨.error failure, counted, []⟩
  | none => ⟨.ok (), { counted with cursor := 0 }, []⟩

def close (script : Script) (s : State) : Step State Unit :=
  let counted := { s with closes := s.closes + 1 }
  match script.closeFault with
  | some failure => ⟨.error failure, counted, []⟩
  | none => ⟨.ok (), counted, []⟩

end Script

namespace Operator

def scripted (script : Script) : Operator where
  State := Script.State
  schema := script.schema
  start := ⟨0, 0, 0, 0⟩
  next _ := script.next
  rescan := script.rescan
  close := script.close
  stats _ := script.stats
  remaining s := script.rows.length - s.cursor
  next_remaining _ s := by
    unfold Script.next
    dsimp only
    split
    · simp
    · split
      · simp
      · rename_i h
        have := (List.getElem?_eq_some_iff.mp h).1
        simp only [rowCount_some]
        omega

end Operator

end RowEngine
