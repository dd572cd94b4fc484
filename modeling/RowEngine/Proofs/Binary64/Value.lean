import Mathlib.Data.Rat.Floor
import Mathlib.Order.Monotone.Basic
import RowEngine.Proofs.Binary64.Rounding

/-!
# What floating point numbers stand for

The exponent and the fraction of a finite number make up a rational number, which is its number of
units over the units of one. From one magnitude to the next it grows by one step of the exponent, so
no two magnitudes stand for the same, and the whole numbers around `2 ^ 63` are far apart.
-/

namespace RowEngine

def towardZero (q : ℚ) : ℤ := if 0 ≤ q then ⌊q⌋ else ⌈q⌉

/-- Dropping the fraction of a quotient is the division that truncates. -/
theorem towardZero_div (n : ℤ) {d : ℕ} (hd : 0 < d) : towardZero (n / d) = n.tdiv d := by
  have hpos : (0 : ℚ) < d := Nat.cast_pos.mpr hd
  have hsign : 0 ≤ (n / d : ℚ) ↔ 0 ≤ n := by
    rw [le_div_iff₀ hpos, zero_mul, Int.cast_nonneg_iff]
  unfold towardZero
  simp only [hsign]
  split
  · rename_i hn
    rw [Rat.floor_intCast_div_natCast, Int.tdiv_eq_ediv_of_nonneg hn]
  · have hneg : 0 ≤ -n := by omega
    rw [Rat.ceil_intCast_div_natCast, ← Int.tdiv_eq_ediv_of_nonneg hneg, Int.neg_tdiv, neg_neg]

theorem tdiv_lt_iff {n k : ℤ} {d : ℕ} (hd : 0 < d) (hk : 0 < k) : n.tdiv d < k ↔ n < k * d := by
  have hpos : (0 : ℤ) < d := Int.natCast_pos.mpr hd
  rcases Int.le_total 0 n with hn | hn
  · rw [Int.tdiv_eq_ediv_of_nonneg hn, Int.ediv_lt_iff_lt_mul hpos]
  · have hquotient := Int.tdiv_nonneg (Int.neg_nonneg_of_nonpos hn) hpos.le
    have hproduct : 0 < k * d := Int.mul_pos hk hpos
    rw [Int.neg_tdiv] at hquotient
    omega

theorem lt_tdiv_iff {n k : ℤ} {d : ℕ} (hd : 0 < d) (hk : k < 0) : k < n.tdiv d ↔ k * d < n := by
  have hflip := tdiv_lt_iff (n := -n) hd (Int.neg_pos.mpr hk)
  rw [Int.neg_tdiv, Int.neg_mul] at hflip
  omega

namespace Binary64

/-- A magnitude is a number of steps within an exponent. -/
theorem exists_steps (m : Nat) : ∃ q d, m = d * 2 ^ 52 + q ∧ q < 2 ^ 53 ∧ (d = 0 ∨ 2 ^ 52 ≤ q) := by
  by_cases hm : m < 2 ^ 52
  · exact ⟨m, 0, by omega, by omega, .inl rfl⟩
  · exact ⟨2 ^ 52 + m % 2 ^ 52, m / 2 ^ 52 - 1, by omega, by omega, .inr (by omega)⟩

/-- The last step of an exponent leads to the first number of the next one. -/
theorem unitsOf_lt_succ (m : Nat) : unitsOf m < unitsOf (m + 1) := by
  obtain ⟨q, d, rfl, hq, hd⟩ := exists_steps m
  have hstep : 0 < 2 ^ d := Nat.two_pow_pos d
  rw [unitsOf_add hq hd]
  by_cases hlast : q + 1 < 2 ^ 53
  · rw [Nat.add_assoc, unitsOf_add hlast (by omega), Nat.add_mul]
    omega
  · obtain rfl : q = 2 ^ 53 - 1 := by omega
    have hcarry : d * 2 ^ 52 + (2 ^ 53 - 1) + 1 = (d + 1) * 2 ^ 52 + 2 ^ 52 := by omega
    rw [hcarry, unitsOf_add (by decide) (.inr (Nat.le_refl _)), Nat.pow_succ]
    omega

theorem unitsOf_strictMono : StrictMono unitsOf :=
  strictMono_nat_of_lt_succ unitsOf_lt_succ

/-- The eleven bits below the sign. -/
def exponent (x : Binary64) : Nat := x.bits.toNat / 2 ^ 52 % 2 ^ 11

def fraction (x : Binary64) : Nat := x.bits.toNat % 2 ^ 52

/-- The size of the number that finite bits stand for. -/
def size (x : Binary64) : ℚ :=
  if x.exponent = 0 then x.fraction * 2 ^ (-1074 : ℤ)
  else (2 ^ 52 + x.fraction) * 2 ^ (x.exponent - 1075 : ℤ)

def value (x : Binary64) : ℚ := if x.negative then -x.size else x.size

/-- The size put together from exponent and fraction is the number of units that the magnitude has.
-/
theorem size_eq (x : Binary64) : x.size = unitsOf x.magnitude / oneUnits := by
  have hexponent : x.exponent = x.magnitude / 2 ^ 52 := by
    simp only [exponent, magnitude, Nat.pow_eq]
    omega
  have hfraction : x.fraction = x.magnitude % 2 ^ 52 := by
    simp only [fraction, magnitude, Nat.pow_eq]
    omega
  have hone : (oneUnits : ℚ) = 2 ^ 1074 := Nat.cast_pow 2 1074
  unfold size unitsOf
  simp only [hone, Nat.pow_eq]
  split
  · have hm : x.magnitude < 2 ^ 52 := by omega
    have hsame : x.fraction = x.magnitude := by omega
    rw [if_pos hm, hsame, zpow_neg, div_eq_mul_inv]
    rfl
  · have hm : ¬ x.magnitude < 2 ^ 52 := by omega
    have hpower : (x.exponent - 1075 : ℤ) = (x.exponent - 1 : ℕ) - (1074 : ℕ) := by omega
    rw [if_neg hm, hpower, zpow_sub₀ two_ne_zero, zpow_natCast, zpow_natCast, ← mul_div_assoc,
      hexponent, hfraction]
    push_cast
    rfl

/-- A number is its number of units over the units of one. -/
theorem value_eq (x : Binary64) : x.value = x.units / oneUnits := by
  unfold value units
  rw [size_eq]
  cases x.negative
  · simp only [Bool.false_eq_true, if_false, Int.cast_natCast]
  · simp only [if_true, Int.cast_neg, Int.cast_natCast, neg_div]

/-- Truncating a number drops the fraction of what it stands for. -/
theorem towardZero_value (x : Binary64) : towardZero x.value = x.truncate := by
  rw [value_eq, towardZero_div _ oneUnits_pos]
  rfl

/-- Up to `2 ^ 53` an integer is a float. -/
theorem units_ofInt {n : Int} (hn : n.natAbs ≤ 2 ^ 53) : (ofInt n).units = n * oneUnits := by
  have hlt := lt_of_le_infinityMagnitude (wholeMagnitude_le n.natAbs)
  have hunits : unitsOf (wholeMagnitude n.natAbs) = n.natAbs * oneUnits :=
    unitsOf_roundUnits_whole hn
  rw [ofInt_eq, units, negative_ofMagnitude _ hlt, magnitude_ofMagnitude _ hlt, hunits,
    Int.natCast_mul]
  by_cases hneg : n < 0
  · have habs : (n.natAbs : Int) = -n := by omega
    rw [decide_eq_true hneg, if_pos rfl, habs, Int.neg_mul, Int.neg_neg]
  · have habs : (n.natAbs : Int) = n := by omega
    rw [decide_eq_false hneg, if_neg Bool.false_ne_true, habs]

theorem isFinite_ofInt {n : Int} (hn : n.natAbs ≤ 2 ^ 53) : (ofInt n).isFinite = true := by
  have hlt := lt_of_le_infinityMagnitude (wholeMagnitude_le n.natAbs)
  have hlast : wholeMagnitude (2 ^ 53) < infinityMagnitude := by decide +kernel
  have hle := wholeMagnitude_mono hn
  rw [ofInt_eq, isFinite, magnitude_ofMagnitude _ hlt, decide_eq_true_eq]
  exact Nat.lt_of_le_of_lt hle hlast

end Binary64

end RowEngine
