import Mathlib.Order.Compare
import RowEngine.Expr.Logic

/-!
# Sameness and order of values

The join looks values up by sameness, a condition compares them. The two agree on values of one
type, also for the zeros and for floats that are no numbers. An integer and a float may compare as
equal, but they are never the same.
-/

namespace RowEngine

namespace Binary64

variable {x y : Binary64}

theorem eq_of_magnitude (hsign : x.negative = y.negative) (h : x.magnitude = y.magnitude) :
    x = y := by
  obtain ⟨a⟩ := x
  obtain ⟨b⟩ := y
  have ha := a.toNat_lt
  have hb := b.toNat_lt
  simp only [negative, magnitude, Nat.pow_eq, decide_eq_decide] at hsign h
  congr 1
  apply UInt64.toNat_inj.mp
  omega

/-- The representative of magnitude zero is not negative. -/
theorem canon_eq_zero (h : x.canon.magnitude = 0) : x.canon = zero := by
  by_cases hzero : x.isZero
  · simp [canon, hzero]
  · by_cases hnan : x.isNaN
    · simp [canon, hzero, hnan, magnitude, nan] at h
    · rw [canon, if_neg hzero, if_neg hnan] at h
      exact absurd (by simp [isZero, h]) hzero

/-- Two floats stand in one place just if they are the same number, or neither is a number. -/
theorem rank_eq_iff : x.rank = y.rank ↔ x.canon = y.canon := by
  constructor
  · intro h
    by_cases hzero : x.canon.magnitude = 0 ∧ y.canon.magnitude = 0
    · rw [canon_eq_zero hzero.1, canon_eq_zero hzero.2]
    · apply eq_of_magnitude
      · cases hx : x.canon.negative <;> cases hy : y.canon.negative <;>
          simp only [rank, hx, hy, ↓reduceIte, Bool.false_eq_true] at h <;> first | rfl | omega
      · simp only [rank] at h
        split at h <;> split at h <;> omega
  · intro h
    simp only [rank, h]

theorem compare_eq_iff : x.compare y = .eq ↔ x.canon = y.canon := by
  rw [← rank_eq_iff]
  exact Std.compare_eq_iff_eq

end Binary64

theorem Date.compare_eq_iff {a b : Date} : a.compare b = .eq ↔ a = b := by
  obtain ⟨_, _, _, _⟩ := a
  obtain ⟨_, _, _, _⟩ := b
  simp [Date.compare, Ordering.then_eq_eq]

namespace Value

variable {a b : Value}

theorem type_of_same (h : a.same b = true) : a.type = b.type := by
  have hcanon : a.canon = b.canon := by simpa [same] using h
  rw [← type_canon a, hcanon, type_canon]

/-- Values of one type are the same if they compare as equal. -/
theorem same_iff_compare (htype : a.type = b.type) : a.same b = true ↔ a.compare b = .eq := by
  cases a <;> cases b <;>
    simp_all [type, same, canon, Value.compare, Int64.toInt_inj,
      Binary64.compare_eq_iff, Date.compare_eq_iff]

theorem same_comm (a b : Value) : a.same b = b.same a := by
  simp [same, eq_comm]

/-- The values of two key columns are there and are the same. -/
def links (a b : Value) : Bool := !a.isNull && !b.isNull && a.same b

theorem links_comm (a b : Value) : a.links b = b.links a := by
  rw [links, links, same_comm, Bool.and_comm (!a.isNull)]

/-- Where a null or a common type is, an equality is true just if the values link. -/
theorem isTrue_equal (h : a.isNull = false → b.isNull = false → a.type = b.type) :
    (a.compare3 Ordering.isEq b).isTrue = a.links b := by
  cases ha : a.isNull with
  | true => simp [compare3, links, ha, isTrue]
  | false =>
    cases hb : b.isNull with
    | true => simp [compare3, links, hb, isTrue]
    | false =>
      have hsame := same_iff_compare (h ha hb)
      simp only [compare3, links, ha, hb, isTrue, Bool.or_false, Bool.false_eq_true, ↓reduceIte,
        Bool.not_false, Bool.true_and]
      rw [Bool.eq_iff_iff, Ordering.isEq_iff_eq_eq, hsame]

end Value

end RowEngine
