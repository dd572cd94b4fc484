import RowEngine.Proofs.Binary64.Value
import RowEngine.Value.Cast

/-!
# Floats as integers

A float goes to the integer that is left when its fraction is dropped, if it is finite and that
integer has sixty-four bits, and otherwise it is refused. The one exception is `2 ^ 63`: it lies
just past the largest integer, and yet it goes there. Up to `2 ^ 53` an integer is a float and comes
back as it was.
-/

namespace RowEngine

/-- The whole numbers of sixty-four bits. -/
def InRange (n : ℤ) : Prop := -2 ^ 63 ≤ n ∧ n ≤ 2 ^ 63 - 1

instance (n : ℤ) : Decidable (InRange n) := by
  unfold InRange
  infer_instance

namespace Binary64

variable {x : Binary64}

/-- The float nearest to the largest integer, which it does not reach. -/
def twoPow63 : Binary64 := ⟨0x43e0000000000000⟩

theorem units_twoPow63 : twoPow63.units = 2 ^ 63 * oneUnits := by decide +kernel

theorem units_of_negative (h : x.negative = true) : x.units = -unitsOf x.magnitude := if_pos h

theorem units_of_not_negative (h : x.negative = false) : x.units = unitsOf x.magnitude := by
  simp [units, h]

/-- No other float has that value. -/
theorem eq_twoPow63 (h : x.units = 2 ^ 63 * oneUnits) : x = twoPow63 := by
  have hpos := oneUnits_pos
  cases hsign : x.negative with
  | true =>
    rw [units_of_negative hsign] at h
    omega
  | false =>
    rw [units_of_not_negative hsign, ← units_twoPow63, units_of_not_negative (by decide)] at h
    have hmagnitude : x.magnitude = 0x43e0000000000000 :=
      unitsOf_strictMono.injective (Int.ofNat.inj h)
    have hbits : x.bits.toNat = 0x43e0000000000000 := by
      simp only [negative, magnitude, Nat.pow_eq, decide_eq_false_iff_not] at hsign hmagnitude
      omega
    cases x with
    | mk bits => exact congrArg Binary64.mk (UInt64.toNat_inj.mp hbits)

/-- No float comes between the least integer and the whole number below it. -/
theorem le_units_of_lt (h : -(2 ^ 63 + 1) * oneUnits < x.units) :
    -2 ^ 63 * oneUnits ≤ x.units := by
  by_contra hlt
  have hpos := oneUnits_pos
  have hsign : x.negative = true := by
    by_contra hsign
    rw [units_of_not_negative (Bool.eq_false_iff.mpr hsign)] at hlt
    omega
  have hlast : (unitsOf 0x43e0000000000000 : ℤ) = 2 ^ 63 * oneUnits := units_twoPow63
  have hnext : ((2 ^ 63 + 1) * oneUnits : ℤ) ≤ unitsOf 0x43e0000000000001 := by decide +kernel
  rw [units_of_negative hsign] at h hlt
  have hover : unitsOf 0x43e0000000000000 < unitsOf x.magnitude := by omega
  have hmagnitude : 0x43e0000000000000 < x.magnitude := unitsOf_strictMono.lt_iff_lt.mp hover
  have hunits : unitsOf 0x43e0000000000001 ≤ unitsOf x.magnitude :=
    unitsOf_strictMono.monotone hmagnitude
  omega

/-- But for `2 ^ 63` itself, the guard lets through just what the integers hold. -/
theorem inRange_truncate_iff (hx : x ≠ twoPow63) :
    InRange x.truncate ↔ -2 ^ 63 * oneUnits ≤ x.units ∧ x.units ≤ 2 ^ 63 * oneUnits := by
  have hpos := oneUnits_pos
  have hlow : -(2 ^ 63 + 1) < x.truncate ↔ -(2 ^ 63 + 1) * oneUnits < x.units :=
    lt_tdiv_iff hpos (by decide)
  have hhigh : x.truncate < 2 ^ 63 ↔ x.units < 2 ^ 63 * oneUnits := tdiv_lt_iff hpos (by decide)
  have hgap := @le_units_of_lt x
  have hlimit : x.units ≠ 2 ^ 63 * oneUnits := mt eq_twoPow63 hx
  unfold InRange
  omega

end Binary64

namespace Value

open Binary64

theorem integerOf?_eq {x : Binary64} (hx : x ≠ twoPow63) :
    integerOf? x =
      if x.isFinite = true ∧ InRange x.truncate then some (Int64.ofInt x.truncate) else none := by
  have hrange := inRange_truncate_iff hx
  unfold integerOf?
  simp only [Nat.pow_eq, Nat.cast_pow, Nat.cast_ofNat, Bool.and_eq_true, decide_eq_true_eq,
    and_assoc, hrange]
  split
  · rename_i hfits
    have hmax : x.truncate ≤ Int64.maxValue.toInt := (hrange.mpr hfits.2).2
    rw [Int.min_eq_left hmax]
  · rfl

/-- A float is cast to the integer that is left when its fraction is dropped, or it is refused if it
is not finite or that integer is out of range. -/
structure CastsExactly (x : Binary64) : Prop where
  exact : x.isFinite = true → InRange (towardZero x.value) →
    ∃ n : Int64, n.toInt = towardZero x.value ∧ (float x).cast .integer = .ok (integer n)
  refused : ¬ (x.isFinite = true ∧ InRange (towardZero x.value)) →
    (float x).cast .integer = .error ((float x).invalidCast .integer)

theorem cast_float (x : Binary64) : (float x).cast .integer =
    match integerOf? x with
    | some n => .ok (integer n)
    | none => .error ((float x).invalidCast .integer) := by
  simp only [cast, type, isNull, convert?]
  cases integerOf? x <;> rfl

/-- The guard is the only place where a cast could be off. -/
theorem castsExactly {x : Binary64} (hx : x ≠ twoPow63) : CastsExactly x := by
  constructor
  · intro hfinite hrange
    rw [towardZero_value] at hrange ⊢
    refine ⟨Int64.ofInt x.truncate, Int64.toInt_ofInt_of_le hrange.1 ?_, ?_⟩
    · unfold InRange at hrange
      omega
    · rw [cast_float, integerOf?_eq hx, if_pos ⟨hfinite, hrange⟩]
  · intro hnot
    rw [towardZero_value] at hnot
    rw [cast_float, integerOf?_eq hx, if_neg hnot]

theorem cast_twoPow63 : (float twoPow63).cast .integer = .ok (integer Int64.maxValue) := by
  decide +kernel

theorem towardZero_twoPow63 : towardZero twoPow63.value = 2 ^ 63 := by
  rw [towardZero_value]
  decide +kernel

theorem ne_twoPow63 {x : Binary64} (h : CastsExactly x) : x ≠ twoPow63 := by
  rintro rfl
  have hrefused := h.refused fun hfits => absurd hfits.2 (by rw [towardZero_twoPow63]; decide)
  rw [cast_twoPow63] at hrefused
  cases hrefused

/-- Up to `2 ^ 53`, an integer comes back from its float. -/
theorem cast_floatOf {n : Int64} (hn : n.toInt.natAbs ≤ 2 ^ 53) :
    (float (floatOf n)).cast .integer = .ok (integer n) := by
  have hunits : (floatOf n).units = n.toInt * oneUnits := units_ofInt hn
  have hpos : (0 : ℤ) < oneUnits := Int.natCast_pos.mpr oneUnits_pos
  have hother : floatOf n ≠ twoPow63 := by
    intro h
    rw [h, units_twoPow63] at hunits
    have := Int.eq_of_mul_eq_mul_right hpos.ne' hunits
    omega
  have hwhole : towardZero (floatOf n).value = n.toInt := by
    rw [towardZero_value, truncate, hunits, Int.mul_tdiv_cancel _ hpos.ne']
  have hrange : InRange (towardZero (floatOf n).value) := by
    rw [hwhole]
    unfold InRange
    omega
  obtain ⟨k, hk, hcast⟩ := (castsExactly hother).exact (isFinite_ofInt hn) hrange
  rw [hcast, Int64.toInt_inj.mp (hk.trans hwhole)]

/-- A float is cast to an integer exactly or refused, but for `2 ^ 63`. An integer up to `2 ^ 53`
comes back from a cast to a float as it was. -/
theorem castsExactly_iff (x : Binary64) (n : Int64) :
    (CastsExactly x ↔ x ≠ twoPow63) ∧
    (n.toInt.natAbs ≤ 2 ^ 53 → ∃ y,
      (integer n).cast .float = .ok (float y) ∧ (float y).cast .integer = .ok (integer n)) :=
  ⟨⟨ne_twoPow63, castsExactly⟩, fun hn => ⟨floatOf n, rfl, cast_floatOf hn⟩⟩

/-- With the least integer as a float, a float that is not a number, and `2 ^ 53`. -/
theorem castsExactly_iff_bounds :
    CastsExactly ⟨0xc3e0000000000000⟩ ∧
    (float ⟨0xc3e0000000000000⟩).cast .integer = .ok (integer Int64.minValue) ∧
    CastsExactly ⟨0x7ff8000000000000⟩ ∧
    ∃ x, (integer 9007199254740992).cast .float = .ok (float x) ∧
      (float x).cast .integer = .ok (integer 9007199254740992) := by
  obtain ⟨hleast, hback⟩ := castsExactly_iff ⟨0xc3e0000000000000⟩ 9007199254740992
  obtain ⟨hnan, -⟩ := castsExactly_iff ⟨0x7ff8000000000000⟩ 9007199254740992
  exact ⟨hleast.mpr (by decide), by decide +kernel, hnan.mpr (by decide), hback (by decide)⟩

/-- `2 ^ 63` is out of range, and it is cast to the largest integer. -/
theorem not_castsExactly_twoPow63 :
    towardZero twoPow63.value = 2 ^ 63 ∧
    (float twoPow63).cast .integer = .ok (integer Int64.maxValue) ∧ ¬ CastsExactly twoPow63 :=
  ⟨towardZero_twoPow63, cast_twoPow63, fun h => ne_twoPow63 h rfl⟩

end Value

end RowEngine
