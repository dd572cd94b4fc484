import RowEngine.Value.Basic

/-!
# Rows

A row is the list of its values. Expressions and sort keys read rows through a `RowView`, by
position, so that the two halves of a joined row need not be copied together first.
-/

namespace RowEngine

abbrev Row := List Value

structure RowView where
  width : Nat
  value : Nat → Option Value

namespace Row

def view (row : Row) : RowView := ⟨row.length, fun i => row[i]?⟩

/-- The row that stands for the missing side of a join. -/
def nulls (width : Nat) : Row := List.replicate width .null

def size : Row → Nat
  | [] => 0
  | v :: rest => v.size + size rest

end Row

/-- A left and a right row, read as one. -/
structure Frame where
  left : Row
  right : Row

namespace Frame

def view (f : Frame) : RowView where
  width := f.left.length + f.right.length
  value i := if i < f.left.length then f.left[i]? else f.right[i - f.left.length]?

def toRow (f : Frame) : Row := f.left ++ f.right

end Frame

end RowEngine
