import Mathlib.Order.Compare
import RowEngine.SortKey

/-!
# Comparing in either direction

Comparing two values, or two rows by some keys, the other way around turns the answer around. So
rows that may each stand before the other are tied.
-/

namespace RowEngine

theorem swap_compare {α : Type} [Ord α] [Std.OrientedOrd α] (a b : α) :
    (Ord.compare a b).swap = Ord.compare b a :=
  Std.OrientedCmp.eq_swap.symm

theorem Binary64.compare_swap (x y : Binary64) : (x.compare y).swap = y.compare x :=
  swap_compare x.rank y.rank

theorem Date.compare_swap (a b : Date) : (a.compare b).swap = b.compare a := by
  simp only [Date.compare, Ordering.swap_then, swap_compare]

theorem Value.compare_swap (a b : Value) : (a.compare b).swap = b.compare a := by
  cases a <;> cases b <;>
    simp only [Value.compare, swap_compare, Binary64.compare_swap, Date.compare_swap,
      Ordering.swap_eq]

namespace SortKey

/-- Nulls come first or last in both directions. -/
theorem compareValues_swap (key : SortKey) (a b : Value) :
    (key.compareValues a b).swap = key.compareValues b a := by
  unfold compareValues
  cases a.isNull <;> cases b.isNull <;> dsimp only
  · cases key.ascending <;> simp [Value.compare_swap]
  · cases key.nullsFirst <;> rfl
  · cases key.nullsFirst <;> rfl
  · rfl

theorem compare_swap (key : SortKey) (a b : RowView) : (key.compare a b).swap = key.compare b a :=
  key.compareValues_swap _ _

theorem compareRows_swap (keys : List SortKey) (a b : RowView) :
    (compareRows keys a b).swap = compareRows keys b a := by
  induction keys with
  | nil => rfl
  | cons key keys ih =>
    simp only [compareRows, List.foldr_cons, Ordering.swap_then] at ih ⊢
    rw [compare_swap, ih]

/-- Every row is tied with itself. -/
theorem compareRows_self (keys : List SortKey) (a : RowView) : compareRows keys a a = .eq := by
  have hswap := compareRows_swap keys a a
  revert hswap
  cases compareRows keys a a <;> decide

end SortKey

end RowEngine
