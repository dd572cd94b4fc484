import Mathlib.Algebra.Group.Nat.Defs
import RowEngine.Binary64.Order
import RowEngine.Binary64.Round

/-!
# Rounding keeps the order

A larger number of units never rounds to a smaller number, and a number of units with at most
fifty-three leading bits is kept as it is. So an integer never passes another one on its way to the
float nearest to it, and up to `2 ^ 53` two integers never meet there either.
-/

namespace RowEngine

/-- A quotient is rounded down if the rest is at most half the divisor, and up if it is at least
half. -/
theorem divHalfEven_cases (num den : Nat) :
    (divHalfEven num den = num / den ∧ 2 * (num % den) ≤ den) ∨
      (divHalfEven num den = num / den + 1 ∧ den ≤ 2 * (num % den)) := by
  unfold divHalfEven
  dsimp only
  split
  · exact .inl ⟨rfl, by omega⟩
  split
  · exact .inr ⟨rfl, by omega⟩
  · rcases Nat.mod_two_eq_zero_or_one (num / den) with h | h <;> rw [h]
    · exact .inl ⟨rfl, by omega⟩
    · exact .inr ⟨rfl, by omega⟩

theorem divHalfEven_mul (q : Nat) {den : Nat} (hden : 0 < den) : divHalfEven (q * den) den = q := by
  simp [divHalfEven, hden]

/-- Rounding keeps the order, also where a half goes to the even neighbour. -/
theorem divHalfEven_mono {a b : Nat} (den : Nat) (hab : a ≤ b) :
    divHalfEven a den ≤ divHalfEven b den := by
  have hquotient : a / den ≤ b / den := Nat.div_le_div_right hab
  rcases Nat.lt_or_eq_of_le hquotient with hlt | heq
  · rcases divHalfEven_cases a den with ⟨ha, -⟩ | ⟨ha, -⟩ <;>
      rcases divHalfEven_cases b den with ⟨hb, -⟩ | ⟨hb, -⟩ <;> omega
  · -- with one quotient it is the remainder that decides
    have hdiva := Nat.div_add_mod a den
    have hdivb := Nat.div_add_mod b den
    have hrest : a % den ≤ b % den := by
      rw [heq] at hdiva
      omega
    unfold divHalfEven
    dsimp only
    rw [heq]
    split <;> split <;> (try split) <;> (try split) <;> omega

/-- Half a step up from below a multiple of the divisor, at most that multiple is reached. -/
theorem divHalfEven_le {num den q : Nat} (h : num < q * den) : divHalfEven num den ≤ q := by
  have hden : 0 < den := Nat.pos_of_mul_pos_left (Nat.zero_lt_of_lt h)
  have hlt : num / den < q := (Nat.div_lt_iff_lt_mul hden).mpr h
  rcases divHalfEven_cases num den with ⟨heq, -⟩ | ⟨heq, -⟩ <;> omega

theorem le_divHalfEven {num den q : Nat} (hden : 0 < den) (h : q * den ≤ num) :
    q ≤ divHalfEven num den := by
  have hle : q ≤ num / den := (Nat.le_div_iff_mul_le hden).mpr h
  rcases divHalfEven_cases num den with ⟨heq, -⟩ | ⟨heq, -⟩ <;> omega

namespace Binary64

/-- The binary places that a number of units has beyond fifty-three. -/
def excess (n : Nat) : Nat := n.log2 - 52

/-- The magnitude of a number of units, were there no largest one. -/
def unboundedMagnitude (n : Nat) : Nat := excess n * 2 ^ 52 + divHalfEven n (2 ^ excess n)

theorem roundUnits_one (n : Nat) :
    roundUnits n 1 = min (unboundedMagnitude n) infinityMagnitude := by
  simp [roundUnits, unboundedMagnitude, excess, Nat.pow_eq]

theorem roundUnits_le (num den : Nat) : roundUnits num den ≤ infinityMagnitude :=
  Nat.min_le_right _ _

/-- Without its excess bits, a number has at most fifty-three. -/
theorem lt_of_excess (n : Nat) : n < 2 ^ 53 * 2 ^ excess n := by
  have hlog : n < 2 ^ (n.log2 + 1) := Nat.lt_log2_self
  have hpow : 2 ^ (n.log2 + 1) ≤ 2 ^ (53 + excess n) :=
    Nat.pow_le_pow_right (by decide) (by unfold excess; omega)
  rw [← Nat.pow_add]
  omega

/-- No more bits are dropped than have to be. -/
theorem le_of_excess {n : Nat} (h : 0 < excess n) : 2 ^ 52 * 2 ^ excess n ≤ n := by
  have hn : n ≠ 0 := by
    rintro rfl
    simp [excess] at h
  have hexponent : 52 + excess n = n.log2 := by unfold excess at h ⊢; omega
  rw [← Nat.pow_add, hexponent]
  exact Nat.log2_self_le hn

/-- The two bounds leave one number of bits to drop. -/
theorem excess_eq {n d : Nat} (hlt : n < 2 ^ 53 * 2 ^ d) (hle : d = 0 ∨ 2 ^ 52 * 2 ^ d ≤ n) :
    excess n = d := by
  rw [← Nat.pow_add] at hlt hle
  unfold excess
  rcases hle with rfl | hle
  · have : n.log2 < 53 ∨ n = 0 := by
      by_cases hn : n = 0
      · exact .inr hn
      · exact .inl ((Nat.log2_lt hn).mpr hlt)
    rcases this with h | rfl
    · omega
    · rfl
  · have hn : n ≠ 0 := by
      have := Nat.two_pow_pos (52 + d)
      omega
    have hlow := (Nat.le_log2 hn).mpr hle
    have hhigh := (Nat.log2_lt hn).mpr hlt
    omega

/-- The last step of each exponent is the first of the next, so the order is kept across them. -/
theorem unboundedMagnitude_mono {m n : Nat} (h : m ≤ n) :
    unboundedMagnitude m ≤ unboundedMagnitude n := by
  have hexcess : excess m ≤ excess n := by
    by_cases hm : m = 0
    · subst hm
      simp [excess]
    · have hlog : m.log2 ≤ n.log2 :=
        (Nat.le_log2 (by omega)).mpr (Nat.le_trans (Nat.log2_self_le hm) h)
      unfold excess
      omega
  unfold unboundedMagnitude
  rcases Nat.lt_or_eq_of_le hexcess with hlt | heq
  · have hm := divHalfEven_le (lt_of_excess m)
    have hn := le_divHalfEven (Nat.two_pow_pos _) (le_of_excess (Nat.zero_lt_of_lt hlt))
    have hstep : (excess m + 1) * 2 ^ 52 ≤ excess n * 2 ^ 52 := Nat.mul_le_mul_right _ hlt
    omega
  · rw [heq]
    have := divHalfEven_mono (2 ^ excess n) h
    omega

/-- A larger number does not round to a smaller one. -/
theorem roundUnits_mono {m n : Nat} (h : m ≤ n) : roundUnits m 1 ≤ roundUnits n 1 := by
  rw [roundUnits_one, roundUnits_one]
  have := unboundedMagnitude_mono h
  omega

/-- A number of units with fifty-three leading bits, or fewer where none are dropped. -/
theorem unboundedMagnitude_mul {q d : Nat} (hlt : q < 2 ^ 53) (hle : d = 0 ∨ 2 ^ 52 ≤ q) :
    unboundedMagnitude (q * 2 ^ d) = d * 2 ^ 52 + q := by
  have hexcess : excess (q * 2 ^ d) = d := by
    apply excess_eq
    · exact Nat.mul_lt_mul_of_pos_right hlt (Nat.two_pow_pos d)
    · rcases hle with hd | hq
      · exact .inl hd
      · exact .inr (Nat.mul_le_mul_right _ hq)
  rw [unboundedMagnitude, hexcess, divHalfEven_mul q (Nat.two_pow_pos d)]

/-- A significand shifted by `d` places: its leading bit adds one to the exponent field, unless the
number is subnormal. -/
theorem unitsOf_add {q d : Nat} (hlt : q < 2 ^ 53) (hle : d = 0 ∨ 2 ^ 52 ≤ q) :
    unitsOf (d * 2 ^ 52 + q) = q * 2 ^ d := by
  unfold unitsOf
  simp only [Nat.pow_eq]
  split
  · obtain rfl : d = 0 := by omega
    simp
  · rename_i hq
    have hq : 2 ^ 52 ≤ q := by omega
    have hdiv : (d * 2 ^ 52 + q) / 2 ^ 52 = d + 1 := by omega
    have hmod : (d * 2 ^ 52 + q) % 2 ^ 52 = q - 2 ^ 52 := by omega
    rw [hdiv, hmod, Nat.add_sub_cancel' hq, Nat.add_sub_cancel]

/-- What needs no more than fifty-three bits is not changed by rounding. -/
theorem unitsOf_roundUnits {q d : Nat} (hlt : q < 2 ^ 53) (hle : d = 0 ∨ 2 ^ 52 ≤ q)
    (hd : d ≤ 2045) : unitsOf (roundUnits (q * 2 ^ d) 1) = q * 2 ^ d := by
  have hfinite : d * 2 ^ 52 + q ≤ infinityMagnitude := by
    simp only [infinityMagnitude, Nat.pow_eq]
    omega
  rw [roundUnits_one, unboundedMagnitude_mul hlt hle, Nat.min_eq_left hfinite,
    unitsOf_add hlt hle]

/-- A number of up to fifty-three bits, and `2 ^ 53` itself, in steps of `2 ^ k` units. -/
theorem unitsOf_roundUnits_steps {n k : Nat} (hn : n ≤ 2 ^ 53) (hlow : 52 ≤ k) (hhigh : k ≤ 2044) :
    unitsOf (roundUnits (n * Nat.pow 2 k) 1) = n * Nat.pow 2 k := by
  rw [Nat.pow_eq]
  rcases Nat.lt_or_eq_of_le hn with hlt | rfl
  · by_cases hzero : n = 0
    · subst hzero
      rw [Nat.zero_mul]
      rfl
    · -- moved up to fifty-three bits
      have hlog : n.log2 ≤ 52 := Nat.le_of_lt_succ ((Nat.log2_lt hzero).mpr hlt)
      have hpow : 0 < 2 ^ (52 - n.log2) := Nat.two_pow_pos _
      have hk : k = 52 - n.log2 + (k + n.log2 - 52) := by omega
      have hbelow : n.log2 + 1 + (52 - n.log2) = 53 := by omega
      have habove : n.log2 + (52 - n.log2) = 52 := by omega
      rw [hk, Nat.pow_add, ← Nat.mul_assoc]
      apply unitsOf_roundUnits
      · have := Nat.mul_lt_mul_of_pos_right (Nat.lt_log2_self (n := n)) hpow
        rwa [← Nat.pow_add, hbelow] at this
      · have := Nat.mul_le_mul_right (2 ^ (52 - n.log2)) (Nat.log2_self_le hzero)
        rw [← Nat.pow_add, habove] at this
        exact .inr this
      · omega
  · -- one more place, and the last of them is zero
    have hsplit : 2 ^ 53 * 2 ^ k = 2 ^ 52 * 2 ^ (k + 1) := by
      rw [← Nat.pow_add, ← Nat.pow_add]
      congr 1
      omega
    rw [hsplit]
    exact unitsOf_roundUnits (by decide) (.inr (Nat.le_refl _)) (by omega)

/-- The whole numbers up to `2 ^ 53` are floats. -/
theorem unitsOf_roundUnits_whole {n : Nat} (hn : n ≤ 2 ^ 53) :
    unitsOf (roundUnits (n * oneUnits) 1) = n * oneUnits :=
  unitsOf_roundUnits_steps hn (by decide) (by decide)

theorem magnitude_ofMagnitude (negative : Bool) {m : Nat} (hm : m < 2 ^ 63) :
    (ofMagnitude negative m).magnitude = m := by
  simp only [magnitude, ofMagnitude, Nat.pow_eq, UInt64.toNat_ofNat']
  split <;> omega

theorem negative_ofMagnitude (negative : Bool) {m : Nat} (hm : m < 2 ^ 63) :
    (ofMagnitude negative m).negative = negative := by
  simp only [Binary64.negative, ofMagnitude, Nat.pow_eq, UInt64.toNat_ofNat']
  cases negative
  · simpa using by omega
  · simpa using by omega

theorem rank_of_isNaN {x : Binary64} (h : x.isNaN = true) : x.rank = nan.rank := by
  have hzero : x.isZero = false := by
    simp only [isNaN, decide_eq_true_eq] at h
    simp only [isZero, beq_eq_false_iff_ne]
    omega
  simp only [rank, canon, hzero, h]
  rfl

theorem rank_of_not_isNaN {x : Binary64} (h : x.isNaN = false) :
    x.rank = if x.negative then -(x.magnitude : Int) else x.magnitude := by
  cases hzero : x.isZero with
  | true =>
    have hmagnitude : x.magnitude = 0 := by simpa [isZero] using hzero
    simp [rank, canon, hzero, hmagnitude]
  | false => simp [rank, canon, hzero, h]

/-- What is not a number comes after all numbers, the infinite ones included. -/
theorem rank_lt_nan {x : Binary64} (h : x.isNaN = false) : x.rank < nan.rank := by
  have hnan : nan.rank = 0x7ff8000000000000 := by decide
  rw [rank_of_not_isNaN h, hnan]
  have hle : x.magnitude ≤ 0x7ff0000000000000 := Nat.le_of_not_lt (of_decide_eq_false h)
  split <;> omega

theorem lt_of_le_infinityMagnitude {m : Nat} (hm : m ≤ infinityMagnitude) : m < 2 ^ 63 :=
  Nat.lt_of_le_of_lt hm (by decide)

theorem not_isNaN_ofMagnitude (negative : Bool) {m : Nat} (hm : m ≤ infinityMagnitude) :
    (ofMagnitude negative m).isNaN = false := by
  simp only [isNaN, magnitude_ofMagnitude negative (lt_of_le_infinityMagnitude hm),
    decide_eq_false_iff_not]
  omega

theorem rank_ofMagnitude (negative : Bool) {m : Nat} (hm : m ≤ infinityMagnitude) :
    (ofMagnitude negative m).rank = if negative then -(m : Int) else m := by
  have hlt := lt_of_le_infinityMagnitude hm
  rw [rank_of_not_isNaN (not_isNaN_ofMagnitude negative hm), magnitude_ofMagnitude negative hlt,
    negative_ofMagnitude negative hlt]

/-- The rounded magnitude of a whole number. -/
def wholeMagnitude (n : Nat) : Nat := roundUnits (n * oneUnits) 1

theorem oneUnits_pos : 0 < oneUnits := Nat.two_pow_pos _

theorem wholeMagnitude_le (n : Nat) : wholeMagnitude n ≤ infinityMagnitude :=
  roundUnits_le _ _

theorem wholeMagnitude_mono {m n : Nat} (h : m ≤ n) : wholeMagnitude m ≤ wholeMagnitude n :=
  roundUnits_mono (Nat.mul_le_mul_right _ h)

/-- Up to `2 ^ 53`, every whole number has a magnitude of its own. -/
theorem wholeMagnitude_inj {m n : Nat} (hm : m ≤ 2 ^ 53) (hn : n ≤ 2 ^ 53)
    (h : wholeMagnitude m = wholeMagnitude n) : m = n := by
  have hunits : m * oneUnits = n * oneUnits := by
    rw [← unitsOf_roundUnits_whole hm, ← unitsOf_roundUnits_whole hn]
    exact congrArg unitsOf h
  exact Nat.eq_of_mul_eq_mul_right oneUnits_pos hunits

theorem wholeMagnitude_zero : wholeMagnitude 0 = 0 := by
  rw [wholeMagnitude, Nat.zero_mul]
  rfl

/-- The float nearest to an integer, by its sign and its magnitude. -/
theorem ofInt_eq (n : Int) : ofInt n = ofMagnitude (decide (n < 0)) (wholeMagnitude n.natAbs) := by
  have hpos : 0 < (oneUnits : Int) := Int.natCast_pos.mpr oneUnits_pos
  unfold ofInt ofUnits
  split
  · rename_i hzero
    obtain rfl : n = 0 := (Int.mul_eq_zero.mp hzero).resolve_right (Int.ne_of_gt hpos)
    rw [Int.natAbs_zero, wholeMagnitude_zero]
    rfl
  · have hsign : n * oneUnits < 0 ↔ n < 0 :=
      ⟨fun h => Int.not_le.mp fun hn => Int.not_lt.mpr (Int.mul_nonneg hn (Int.le_of_lt hpos)) h,
        fun h => Int.mul_neg_of_neg_of_pos h hpos⟩
    have habs : (n * oneUnits).natAbs = n.natAbs * oneUnits := by
      rw [Int.natAbs_mul, Int.natAbs_natCast]
    rw [habs, decide_eq_decide.mpr hsign]
    rfl

theorem rank_ofInt (n : Int) : (ofInt n).rank =
    if n < 0 then -(wholeMagnitude n.natAbs : Int) else wholeMagnitude n.natAbs := by
  rw [ofInt_eq, rank_ofMagnitude _ (wholeMagnitude_le _)]
  simp only [decide_eq_true_eq]

/-- On the way to floats no integer passes another. -/
theorem rank_ofInt_mono {m n : Int} (h : m ≤ n) : (ofInt m).rank ≤ (ofInt n).rank := by
  rw [rank_ofInt, rank_ofInt]
  split <;> split
  · have := wholeMagnitude_mono (show n.natAbs ≤ m.natAbs by omega)
    omega
  · omega
  · omega
  · have := wholeMagnitude_mono (show m.natAbs ≤ n.natAbs by omega)
    omega

/-- Up to `2 ^ 53` no integer meets another there. -/
theorem rank_ofInt_inj {m n : Int} (hm : m.natAbs ≤ 2 ^ 53) (hn : n.natAbs ≤ 2 ^ 53)
    (h : (ofInt m).rank = (ofInt n).rank) : m = n := by
  have hinj := wholeMagnitude_inj hm hn
  have hzero {k : Int} (hk : k.natAbs ≤ 2 ^ 53) (h : wholeMagnitude k.natAbs = 0) : k = 0 :=
    Int.natAbs_eq_zero.mp
      (wholeMagnitude_inj hk (Nat.zero_le _) (h.trans wholeMagnitude_zero.symm))
  rw [rank_ofInt, rank_ofInt] at h
  split at h <;> split at h
  · omega
  · have hzm := hzero hm (by omega)
    omega
  · have hzn := hzero hn (by omega)
    omega
  · omega

/-- Up to `2 ^ 53`, integers stay apart and in order as floats. -/
theorem rank_ofInt_lt {m n : Int} (hm : m.natAbs ≤ 2 ^ 53) (hn : n.natAbs ≤ 2 ^ 53) (h : m < n) :
    (ofInt m).rank < (ofInt n).rank := by
  have hle := rank_ofInt_mono (Int.le_of_lt h)
  have hne : (ofInt m).rank ≠ (ofInt n).rank := fun he => by
    have := rank_ofInt_inj hm hn he
    omega
  omega

theorem not_isNaN_ofInt (n : Int) : (ofInt n).isNaN = false := by
  rw [ofInt_eq]
  exact not_isNaN_ofMagnitude _ (wholeMagnitude_le _)

end Binary64

end RowEngine
