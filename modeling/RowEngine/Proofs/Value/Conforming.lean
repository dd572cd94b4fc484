import RowEngine.Operator.Leaf

/-!
# Rows that conform to a schema

A value fits a type if it is null or of this type, and a row conforms to a schema if it has a
fitting value for each column.
-/

namespace RowEngine

def Value.Fits (v : Value) (t : DataType) : Prop := v = .null ∨ v.type = t

instance (v : Value) (t : DataType) : Decidable (v.Fits t) := by
  unfold Value.Fits
  infer_instance

theorem Value.fits_null (t : DataType) : Value.null.Fits t := .inl rfl

theorem Value.fits_type (v : Value) : v.Fits v.type := .inr rfl

theorem Value.Fits.type_eq {v : Value} {t : DataType} (h : v.Fits t) (hv : v.isNull = false) :
    v.type = t := by
  rcases h with rfl | h
  · cases hv
  · exact h

structure RowView.Conforms (row : RowView) (schema : Schema) : Prop where
  width : row.width = schema.size
  fits : ∀ i c, schema.columns[i]? = some c → ∃ v, row.value i = some v ∧ v.Fits c.type

/-- Rows stored next to each other conform to schemas that are put next to each other. -/
theorem Frame.conforms {f : Frame} {left right : Schema} (hleft : f.left.view.Conforms left)
    (hright : f.right.view.Conforms right) : f.view.Conforms (left ++ right) := by
  have hwidth : f.left.length = left.columns.length := hleft.width
  constructor
  · rw [Schema.size_append, ← hleft.width, ← hright.width]
    rfl
  · intro i c hc
    rw [Schema.columns_append] at hc
    by_cases hi : i < f.left.length
    · rw [List.getElem?_append_left (by omega)] at hc
      obtain ⟨v, hv, hfits⟩ := hleft.fits i c hc
      exact ⟨v, (if_pos hi).trans hv, hfits⟩
    · rw [List.getElem?_append_right (by omega), ← hwidth] at hc
      obtain ⟨v, hv, hfits⟩ := hright.fits _ c hc
      exact ⟨v, (if_neg hi).trans hv, hfits⟩

/-- A table with one column of integers. -/
def Relation.ofIntegers (name : String) (numbers : List Int64) : Relation :=
  ⟨⟨[⟨name, .integer, false⟩]⟩, numbers.map fun n => [.integer n], by simp [Schema.size]⟩

theorem Relation.conforms_ofIntegers (name : String) (numbers : List Int64) :
    ∀ row ∈ (ofIntegers name numbers).rows, row.view.Conforms (ofIntegers name numbers).schema := by
  intro row hrow
  obtain ⟨n, -, rfl⟩ := List.mem_map.mp hrow
  refine ⟨rfl, ?_⟩
  intro i c hc
  cases i with
  | zero =>
    obtain rfl := Option.some.inj hc
    exact ⟨.integer n, rfl, Value.fits_type _⟩
  | succ i => simp [ofIntegers] at hc

end RowEngine
