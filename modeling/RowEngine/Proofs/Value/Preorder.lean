import Mathlib.Data.Set.Insert
import Mathlib.Data.String.Basic
import RowEngine.Proofs.Binary64.Rounding
import RowEngine.Proofs.Value.Order

/-!
# How far the order of values is one

Comparing never goes round in a circle: what comes strictly before something comes before all that
does not precede it. That ties pass on is another matter, because an integer meets a float only
after rounding: two integers may tie with one float and not with each other. Where no float occurs,
and where all integers are floats, they do pass on.
-/

namespace RowEngine

instance : Std.OrientedCmp Value.compare where
  eq_swap := (Value.compare_swap _ _).symm

/-- Dates are in order by year, then by month, then by day. -/
instance : Std.TransCmp Date.compare :=
  inferInstanceAs (Std.TransCmp (compareLex (compareOn Date.year)
    (compareLex (compareOn Date.month) (compareOn Date.day))))

theorem Date.isLE_trans {a b c : Date} (h₁ : (a.compare b).isLE) (h₂ : (b.compare c).isLE) :
    (a.compare c).isLE :=
  Std.TransCmp.isLE_trans h₁ h₂

namespace Value

variable {a b c v w : Value}

theorem compare_self (a : Value) : a.compare a = .eq :=
  Std.ReflCmp.compare_self

theorem compare_of_typeRank_ne (h : a.typeRank ≠ b.typeRank) :
    a.compare b = Ord.compare a.typeRank b.typeRank := by
  cases a <;> cases b <;> first | rfl | exact absurd rfl h

theorem compare_of_typeRank_lt (h : a.typeRank < b.typeRank) : a.compare b = .lt := by
  rw [compare_of_typeRank_ne (Nat.ne_of_lt h), Nat.compare_eq_lt]
  exact h

theorem typeRank_le (h : (a.compare b).isLE) : a.typeRank ≤ b.typeRank := by
  by_contra hlt
  have hgt : b.compare a = .lt := compare_of_typeRank_lt (Nat.lt_of_not_le hlt)
  rw [← compare_swap, hgt] at h
  cases h

theorem isNumeric_iff_typeRank : v.type.isNumeric = true ↔ v.typeRank = 1 := by
  cases v <;> simp [type, DataType.isNumeric, typeRank]

/-- Values of one kind, numbers apart. -/
theorem isLE_trans_of_typeRank_eq (ha : a.type.isNumeric = false) (hab : a.typeRank = b.typeRank)
    (hbc : b.typeRank = c.typeRank) (h₁ : (a.compare b).isLE) (h₂ : (b.compare c).isLE) :
    (a.compare c).isLE := by
  cases a with
  | integer | float => cases ha
  | null =>
    cases b <;> cases hab
    cases c <;> cases hbc
    rfl
  | boolean x =>
    cases b <;> cases hab
    cases c <;> cases hbc
    exact Std.TransOrd.isLE_trans (a := x) h₁ h₂
  | text x =>
    cases b <;> cases hab
    cases c <;> cases hbc
    exact Std.TransOrd.isLE_trans (a := x) h₁ h₂
  | date x =>
    cases b <;> cases hab
    cases c <;> cases hbc
    exact Date.isLE_trans (a := x) h₁ h₂
  | blob x =>
    cases b <;> cases hab
    cases c <;> cases hbc
    exact Std.TransOrd.isLE_trans (a := x) h₁ h₂

/-- Where one of three values is no number, their order is that of the kinds first. -/
theorem isLE_trans_of_not_numeric
    (h : ¬ (a.type.isNumeric = true ∧ b.type.isNumeric = true ∧ c.type.isNumeric = true))
    (h₁ : (a.compare b).isLE) (h₂ : (b.compare c).isLE) : (a.compare c).isLE := by
  have hab := typeRank_le h₁
  have hbc := typeRank_le h₂
  rcases Nat.lt_or_eq_of_le (Nat.le_trans hab hbc) with hlt | heq
  · rw [compare_of_typeRank_lt hlt]
    rfl
  · have ha : a.type.isNumeric = false := by
      simp only [isNumeric_iff_typeRank] at h
      rw [Bool.eq_false_iff, ne_eq, isNumeric_iff_typeRank]
      omega
    exact isLE_trans_of_typeRank_eq ha (by omega) (by omega) h₁ h₂

/-- The place of a number among the floats. -/
def numberRank : Value → Int
  | integer n => (floatOf n).rank
  | float x => x.rank
  | _ => 0

theorem compare_of_float (ha : a.type.isNumeric = true) (hb : b.type.isNumeric = true)
    (h : a.type = .float ∨ b.type = .float) :
    a.compare b = Ord.compare a.numberRank b.numberRank := by
  cases a <;> cases b <;> first | rfl | simp_all [type, DataType.isNumeric]

/-- No number passes another on the way to the floats. -/
theorem numberRank_le (ha : a.type.isNumeric = true) (hb : b.type.isNumeric = true)
    (h : (a.compare b).isLE) : a.numberRank ≤ b.numberRank := by
  by_cases hfloat : a.type = .float ∨ b.type = .float
  · rw [compare_of_float ha hb hfloat] at h
    exact Std.isLE_compare.mp h
  · cases a <;> cases b <;> simp_all [type, DataType.isNumeric]
    exact Binary64.rank_ofInt_mono (Std.isLE_compare.mp h)

/-- Numbers that are apart there keep their order. -/
theorem compare_of_numberRank_lt (ha : a.type.isNumeric = true) (hb : b.type.isNumeric = true)
    (h : a.numberRank < b.numberRank) : a.compare b = .lt := by
  have hnot : ¬ (b.compare a).isLE := fun hle => by
    have := numberRank_le hb ha hle
    omega
  rw [← compare_swap] at hnot
  revert hnot
  cases a.compare b <;> simp

theorem type_eq_integer (ha : a.type.isNumeric = true) (h : a.type ≠ .float) :
    ∃ n, a = integer n := by
  cases a with
  | integer n => exact ⟨n, rfl⟩
  | float x => exact absurd rfl h
  | null | boolean | text | date | blob => cases ha

/-- Numbers in one place there that are still told apart are integers. -/
theorem exists_integers (ha : a.type.isNumeric = true) (hb : b.type.isNumeric = true)
    (hrank : a.numberRank = b.numberRank) (h : a.compare b ≠ .eq) :
    ∃ m n, a = integer m ∧ b = integer n := by
  by_cases hfloat : a.type = .float ∨ b.type = .float
  · rw [compare_of_float ha hb hfloat, hrank] at h
    exact absurd Std.ReflCmp.compare_self h
  · obtain ⟨hfa, hfb⟩ := not_or.mp hfloat
    obtain ⟨m, hm⟩ := type_eq_integer ha hfa
    obtain ⟨n, hn⟩ := type_eq_integer hb hfb
    exact ⟨m, n, hm, hn⟩

/-- Of three numbers of which the second comes strictly after the first and not after the third. If
the first came after the third, all of them would stand in one place and so be integers. -/
theorem isLE_of_lt_of_isLE_numeric (ha : a.type.isNumeric = true) (hb : b.type.isNumeric = true)
    (hc : c.type.isNumeric = true) (h₁ : a.compare b = .lt) (h₂ : (b.compare c).isLE) :
    (a.compare c).isLE := by
  by_contra hgt
  have hca : c.compare a = .lt := by
    rw [← compare_swap]
    revert hgt
    cases a.compare c <;> simp
  have hab := numberRank_le ha hb (by simp [h₁])
  have hbc := numberRank_le hb hc h₂
  have hle := numberRank_le hc ha (by simp [hca])
  obtain ⟨l, m, rfl, rfl⟩ := exists_integers ha hb (by omega) (by simp [h₁])
  obtain ⟨n, -, rfl, -⟩ := exists_integers hc ha (by omega) (by simp [hca])
  have hlm : ((integer l).compare (integer m)).isLE := by simp [h₁]
  exact hgt (Std.TransOrd.isLE_trans (a := l.toInt) hlm h₂)

theorem isLE_of_lt_of_isLE (h₁ : a.compare b = .lt) (h₂ : (b.compare c).isLE) :
    (a.compare c).isLE := by
  by_cases h : a.type.isNumeric = true ∧ b.type.isNumeric = true ∧ c.type.isNumeric = true
  · exact isLE_of_lt_of_isLE_numeric h.1 h.2.1 h.2.2 h₁ h₂
  · exact isLE_trans_of_not_numeric h (by simp [h₁]) h₂

/-- A value that does not come strictly before another one comes after it or ties with it. -/
theorem isLE_swap_of_not_lt (h : a.compare b ≠ .lt) : (b.compare a).isLE := by
  rw [← compare_swap]
  revert h
  cases a.compare b <;> simp

/-- A value that comes strictly before a second one and this before a third comes before the third.
-/
theorem lt_trans (h₁ : a.compare b = .lt) (h₂ : b.compare c = .lt) : a.compare c = .lt := by
  by_contra h
  have hba := isLE_of_lt_of_isLE h₂ (isLE_swap_of_not_lt h)
  rw [← compare_swap, h₁] at hba
  cases hba

/-- No float is among the values, or all integers among them are floats. -/
def TiesPass (S : Set Value) : Prop :=
  (∀ v ∈ S, v.type ≠ .float) ∨ ∀ n, integer n ∈ S → n.toInt.natAbs ≤ 2 ^ 53

/-- Comparing puts some values in line, those that tie in one place. -/
structure OrdersOn (S : Set Value) : Prop where
  total : ∀ a ∈ S, ∀ b ∈ S, (a.compare b).isLE ∨ (b.compare a).isLE
  trans : ∀ a ∈ S, ∀ b ∈ S, ∀ c ∈ S, (a.compare b).isLE → (b.compare c).isLE → (a.compare c).isLE
  ties : ∀ a ∈ S, ∀ b ∈ S, ∀ c ∈ S, a.compare b = .eq → b.compare c = .eq → a.compare c = .eq

/-- Integers that are floats stand where they stand among the floats. -/
theorem compare_of_whole {m n : Int64} (hm : m.toInt.natAbs ≤ 2 ^ 53)
    (hn : n.toInt.natAbs ≤ 2 ^ 53) :
    (integer m).compare (integer n) =
      Ord.compare (integer m).numberRank (integer n).numberRank := by
  change Ord.compare m.toInt n.toInt =
    Ord.compare (Binary64.ofInt m.toInt).rank (Binary64.ofInt n.toInt).rank
  rcases Int.lt_trichotomy m.toInt n.toInt with h | h | h
  · rw [compare_lt_iff_lt.mpr h, compare_lt_iff_lt.mpr (Binary64.rank_ofInt_lt hm hn h)]
  · rw [compare_eq_iff_eq.mpr h, h, compare_eq_iff_eq.mpr rfl]
  · rw [compare_gt_iff_gt.mpr h, compare_gt_iff_gt.mpr (Binary64.rank_ofInt_lt hn hm h)]

/-- Where integers are small enough to be exact as floats, numbers compare by their places. -/
theorem compare_of_tiesPass {S : Set Value} (hS : ∀ n, integer n ∈ S → n.toInt.natAbs ≤ 2 ^ 53)
    (ha : a ∈ S) (hb : b ∈ S) (hna : a.type.isNumeric = true) (hnb : b.type.isNumeric = true) :
    a.compare b = Ord.compare a.numberRank b.numberRank := by
  by_cases hfloat : a.type = .float ∨ b.type = .float
  · exact compare_of_float hna hnb hfloat
  · obtain ⟨hfa, hfb⟩ := not_or.mp hfloat
    obtain ⟨m, rfl⟩ := type_eq_integer hna hfa
    obtain ⟨n, rfl⟩ := type_eq_integer hnb hfb
    exact compare_of_whole (hS m ha) (hS n hb)

theorem isLE_trans_of_tiesPass {S : Set Value} (hS : TiesPass S) (ha : a ∈ S) (hb : b ∈ S)
    (hc : c ∈ S) (h₁ : (a.compare b).isLE) (h₂ : (b.compare c).isLE) : (a.compare c).isLE := by
  by_cases h : a.type.isNumeric = true ∧ b.type.isNumeric = true ∧ c.type.isNumeric = true
  · obtain ⟨hna, hnb, hnc⟩ := h
    rcases hS with hS | hS
    · obtain ⟨l, rfl⟩ := type_eq_integer hna (hS a ha)
      obtain ⟨m, rfl⟩ := type_eq_integer hnb (hS b hb)
      obtain ⟨n, rfl⟩ := type_eq_integer hnc (hS c hc)
      exact Std.TransOrd.isLE_trans (a := l.toInt) h₁ h₂
    · rw [compare_of_tiesPass hS ha hb hna hnb] at h₁
      rw [compare_of_tiesPass hS hb hc hnb hnc] at h₂
      rw [compare_of_tiesPass hS ha hc hna hnc]
      exact Std.TransOrd.isLE_trans h₁ h₂
  · exact isLE_trans_of_not_numeric h h₁ h₂

/-- Comparing puts the values in line if ties among them pass on. -/
theorem ordersOn_of_tiesPass {S : Set Value} (hS : TiesPass S) : OrdersOn S := by
  constructor
  case total =>
    intro a _ b _
    by_cases h : a.compare b = .lt
    · exact .inl (by simp [h])
    · exact .inr (isLE_swap_of_not_lt h)
  case trans =>
    intro a ha b hb c hc
    exact isLE_trans_of_tiesPass hS ha hb hc
  case ties =>
    intro a ha b hb c hc hab hbc
    have hac := isLE_trans_of_tiesPass hS ha hb hc (by simp [hab]) (by simp [hbc])
    have hca := isLE_trans_of_tiesPass hS hc hb ha (by simp [← compare_swap b c, hbc])
      (by simp [← compare_swap a b, hab])
    exact Std.OrientedCmp.isLE_antisymm hac hca

theorem compare_null (h : v ≠ null) : v.compare null = .lt := by
  cases v <;> first | rfl | exact absurd rfl h

/-- A float that is not a number. -/
def isNaN : Value → Bool
  | float x => x.isNaN
  | _ => false

/-- What is not a number comes after all numbers. -/
theorem compare_nan (hv : v.type.isNumeric = true) (hnumber : v.isNaN = false)
    (hw : w.isNaN = true) : v.compare w = .lt := by
  cases w with
  | float y =>
    have hrank : v.numberRank < y.rank := by
      rw [Binary64.rank_of_isNaN hw]
      cases v with
      | integer n => exact Binary64.rank_lt_nan (Binary64.not_isNaN_ofInt n.toInt)
      | float x => exact Binary64.rank_lt_nan hnumber
      | null | boolean | text | date | blob => cases hv
    exact compare_of_numberRank_lt hv rfl hrank
  | null | boolean | integer | text | date | blob => cases hw

/-- Comparing is reflexive and turns around with its sides, what comes strictly before something
comes before all that does not precede it, and where ties pass on it puts the values in line. Null
is last of all, and of the numbers those that are none. -/
theorem compare_orders :
    (∀ a : Value, a.compare a = .eq) ∧
    (∀ a b : Value, b.compare a = (a.compare b).swap) ∧
    (∀ a b c : Value, a.compare b = .lt → b.compare c = .lt → a.compare c = .lt) ∧
    (∀ a b c : Value, a.compare b = .lt → c.compare b ≠ .lt → a.compare c ≠ .gt) ∧
    (∀ S : Set Value, TiesPass S → OrdersOn S) ∧
    (∀ v : Value, v ≠ null → v.compare null = .lt) ∧
    (∀ v w : Value, v.type.isNumeric = true → v.isNaN = false → w.isNaN = true →
      v.compare w = .lt) := by
  refine ⟨compare_self, fun a b => (compare_swap a b).symm, fun a b c => lt_trans, ?_,
    fun S => ordersOn_of_tiesPass, fun v => compare_null, fun v w => compare_nan⟩
  intro a b c hab hcb hac
  have hle := isLE_of_lt_of_isLE hab (isLE_swap_of_not_lt hcb)
  rw [hac] at hle
  cases hle

/-- With `2 ^ 53` as an integer and as a float, and a float that is not a number. -/
theorem compare_orders_numbers :
    let S : Set Value := {integer 9007199254740992, float ⟨0x4340000000000000⟩, integer (-3), null}
    (TiesPass S ∧ OrdersOn S) ∧
    (integer (-3)).compare (float ⟨0x4340000000000000⟩) = .lt ∧
    (float ⟨0x4340000000000000⟩).compare (integer 9007199254740994) = .lt ∧
    (integer (-3)).compare (integer 9007199254740994) = .lt ∧
    (integer 9007199254740992).compare (float ⟨0x4340000000000000⟩) ≠ .lt ∧
    (integer (-3)).compare (integer 9007199254740992) ≠ .gt ∧
    (text "z").compare null = .lt ∧
    (integer 9007199254740994).compare (float ⟨0xfff8000000000001⟩) = .lt := by
  intro S
  obtain ⟨-, -, htrans, hmixed, horders, hnull, hnan⟩ := compare_orders
  have hS : TiesPass S := by
    right
    rintro n (h | h | h | h)
    · cases h
      decide
    · cases h
    · cases h
      decide
    · cases h
  have h₁ : (integer (-3)).compare (float ⟨0x4340000000000000⟩) = .lt := by decide +kernel
  have h₂ : (float ⟨0x4340000000000000⟩).compare (integer 9007199254740994) = .lt := by
    decide +kernel
  have h₃ : (integer 9007199254740992).compare (float ⟨0x4340000000000000⟩) ≠ .lt := by
    decide +kernel
  exact ⟨⟨hS, horders S hS⟩, h₁, h₂, htrans _ _ _ h₁ h₂, h₃, hmixed _ _ _ h₁ h₃,
    hnull _ (by decide), hnan _ _ rfl rfl (by decide)⟩

/-- An integer that is no float ties with the float nearest to it, and so does that float as an
integer. -/
example : (integer 9007199254740993).compare (float ⟨0x4340000000000000⟩) = .eq ∧
    (float ⟨0x4340000000000000⟩).compare (integer 9007199254740992) = .eq ∧
    (integer 9007199254740993).compare (integer 9007199254740992) = .gt := by
  decide +kernel

end Value

end RowEngine
