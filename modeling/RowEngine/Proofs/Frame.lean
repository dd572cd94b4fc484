import RowEngine.Projection
import RowEngine.Proofs.Outcome
import RowEngine.SortKey

/-!
# Frames are rows

The halves of a frame are stored apart and read as one. Whoever reads a frame finds what the copied
row holds, at the seam and past the end too: a column past the end is missing from both, and its
error names the width of both halves together.
-/

namespace RowEngine

/-- A view is known by its width and by what it says of each column. -/
theorem RowView.eq_of_reads {v w : RowView} (hwidth : v.width = w.width)
    (hvalue : ∀ i, v.value i = w.value i) : v = w := by
  obtain ⟨width, value⟩ := v
  obtain ⟨width', value'⟩ := w
  obtain rfl : width = width' := hwidth
  obtain rfl : value = value' := funext hvalue
  rfl

namespace Frame

variable (f : Frame)

theorem width_view : f.view.width = (f.left ++ f.right).length := by
  rw [List.length_append]
  rfl

/-- The seam is where the left half ends, however short the halves are. -/
theorem value_view (i : Nat) : f.view.value i = (f.left ++ f.right)[i]? := by
  by_cases hi : i < f.left.length
  · rw [List.getElem?_append_left hi]
    exact if_pos hi
  · rw [List.getElem?_append_right (Nat.le_of_not_lt hi)]
    exact if_neg hi

theorem view_eq : f.view = (f.left ++ f.right).view :=
  RowView.eq_of_reads f.width_view f.value_view

end Frame

/-- Where each item has its value, all values are written. -/
theorem Output.ofEach_of_values {α : Type} {value : α → Evaluation Value} {as : List α} {row : Row}
    (h : as.map value = row.map .ok) : ofEach value as = ⟨row, .ok ()⟩ := by
  induction as generalizing row with
  | nil =>
    obtain rfl := List.map_eq_nil_iff.mp h.symm
    rfl
  | cons a rest ih =>
    cases row with
    | nil => cases h
    | cons v row =>
      obtain ⟨hv, hrest⟩ := List.cons.inj h
      simp only [ofEach, hv, ih hrest]
      rfl

namespace Projection

theorem readColumn_view {row : Row} {i : Nat} {v : Value} (h : row[i]? = some v) :
    readColumn row.view i = .ok v := by
  unfold readColumn
  rw [show row.view.value i = some v from h]

/-- Without targets a row is written as it is. -/
theorem write_identity (input : Schema) (row : Row) :
    (identity input).write row.view = ⟨row, .ok ()⟩ := by
  apply Output.ofEach_of_values
  apply List.ext_getElem?
  intro i
  rw [List.getElem?_map, List.getElem?_map]
  by_cases hi : i < row.length
  · have hvalue : row[i]? = some row[i] := List.getElem?_eq_getElem hi
    rw [hvalue, show (List.range row.view.width)[i]? = some i from List.getElem?_range hi]
    exact congrArg some (readColumn_view hvalue)
  · have hrange : (List.range row.view.width)[i]? = none := by
      rw [List.getElem?_eq_none_iff, List.length_range]
      exact Nat.le_of_not_lt hi
    rw [hrange, List.getElem?_eq_none (Nat.le_of_not_lt hi)]
    rfl

end Projection

theorem Expr.eval_column (schema : Schema) (row : Row) (i : Nat) (type : DataType) (name : String) :
    (column i type name).eval schema row.view =
      if h : i < row.length then .ok row[i] else .error (.columnOutOfBounds i row.length) := by
  by_cases hi : i < row.length
  · simp [eval, Row.view, hi]
  · simp [eval, Row.view, hi]

/-- What is to be said of a view that stands for a row: nothing that reads it can tell the two
apart. -/
structure RowView.StandsFor (view : RowView) (row : Row) : Prop where
  width : view.width = row.length
  value : ∀ i, view.value i = row[i]?
  /-- A plain column gives the value at its place in the row, or an error that names the width of
  the row. -/
  column : ∀ schema i type name, (Expr.column i type name).eval schema view =
    if h : i < row.length then .ok row[i] else .error (.columnOutOfBounds i row.length)
  /-- Every expression gives the same value or the same error, and makes the same calls. -/
  eval : ∀ (schema : Schema) (e : Expr), e.eval schema view = e.eval schema row.view
  holds : ∀ (schema : Schema) (e : Expr), e.holds schema view = e.holds schema row.view
  /-- Every projection writes the same values, up to the same error. -/
  write : ∀ p : Projection, p.write view = p.write row.view
  apply : ∀ p : Projection, p.apply view = p.apply row.view
  /-- Without targets the row itself is written. -/
  copy : ∀ input, (Projection.identity input).write view = ⟨row, .ok ()⟩
  compare_left : ∀ keys other,
    SortKey.compareRows keys view other = SortKey.compareRows keys row.view other
  compare_right : ∀ keys other,
    SortKey.compareRows keys other view = SortKey.compareRows keys other row.view

/-- A frame is copied to its left half followed by its right half, and whatever reads the frame
reads this row. -/
theorem Frame.stands_for_copy (f : Frame) :
    f.toRow = f.left ++ f.right ∧ f.view.StandsFor (f.left ++ f.right) := by
  refine ⟨rfl, ?_⟩
  constructor
  case width => exact f.width_view
  case value => exact f.value_view
  case column =>
    intro schema i type name
    rw [f.view_eq, Expr.eval_column]
  case copy =>
    intro input
    rw [f.view_eq, Projection.write_identity]
  all_goals
    intros
    rw [f.view_eq]

/-- One column past the end of a frame of two values: the error names the width of both halves. -/
example : ((Expr.column 2 .integer "c").eval ⟨[]⟩
    (Frame.mk [.integer 1] [.integer 2]).view).result = .error (.columnOutOfBounds 2 2) :=
  rfl

end RowEngine
