import Mathlib.Algebra.Group.Nat.Defs
import Mathlib.Data.List.Basic
import Mathlib.Data.List.TakeWhile
import RowEngine.Date.Text

/-!
# Digits and blanks

Decimal digits are read back as the number they were written for, zeros in front included. Blanks
put before and after a text make no difference once its ends are trimmed.
-/

namespace RowEngine

variable {cs before after : List Char} {c : Char} {width n : Nat}

theorem natOfDigits_eq_ofDigitChars (h : ∀ c ∈ cs, c.isDigit = true) :
    natOfDigits 10 cs = Nat.ofDigitChars 10 cs 0 := by
  rw [Nat.ofDigitChars_eq_foldl]
  refine List.foldl_ext _ _ _ fun n c hc => ?_
  rw [digitValue, if_pos (h c hc)]

@[simp] theorem paddedDigits_zero (n : Nat) : paddedDigits 0 n = Nat.toDigits 10 n := by
  simp [paddedDigits]

theorem isDigit_of_mem_paddedDigits (h : c ∈ paddedDigits width n) : c.isDigit = true := by
  rcases List.mem_append.mp h with h | h
  · rw [List.eq_of_mem_replicate h]
    rfl
  · exact Nat.isDigit_of_mem_toDigits (by decide) (by decide) h

/-- Zeros in front make no difference. -/
theorem natOfDigits_paddedDigits (width n : Nat) :
    natOfDigits 10 (paddedDigits width n) = n := by
  rw [natOfDigits_eq_ofDigitChars fun _ => isDigit_of_mem_paddedDigits, paddedDigits,
    Nat.ofDigitChars_append, Nat.ofDigitChars_replicate_zero, Nat.mul_zero,
    Nat.ofDigitChars_ten_toDigits]

theorem paddedDigits_ne_nil (width n : Nat) : paddedDigits width n ≠ [] := by
  simp [paddedDigits, Nat.toDigits_ne_nil]

theorem head_paddedDigits (width n : Nat) (rest : List Char) :
    ∀ c ∈ (paddedDigits width n ++ rest).head?, c.isDigit = true := by
  obtain ⟨c, cs, h⟩ := List.exists_cons_of_ne_nil (paddedDigits_ne_nil width n)
  rw [h]
  rintro _ ⟨⟩
  exact isDigit_of_mem_paddedDigits (by rw [h]; exact List.mem_cons_self)

theorem length_paddedDigits_le (hwidth : 0 < width) (h : n < 10 ^ width) :
    (paddedDigits width n).length ≤ width := by
  have hlength := (Nat.length_toDigits_le_iff (by decide) hwidth).mpr h
  simp only [paddedDigits, List.length_append, List.length_replicate]
  omega

theorem isBlank_of_isDigit (h : c.isDigit = true) : isBlank c = false := by
  have hcode := Char.isDigit_iff_toNat.mp h
  simp only [isBlank]
  grind

theorem isBlank_of_mem_paddedDigits (h : c ∈ paddedDigits width n) : isBlank c = false :=
  isBlank_of_isDigit (isDigit_of_mem_paddedDigits h)

theorem trimStart_eq_self (h : ∀ c ∈ cs.head?, isBlank c = false) : trimStart cs = cs := by
  cases cs with
  | nil => rfl
  | cons c rest => exact List.dropWhile_cons_of_neg (by simp [h c rfl])

theorem trimBlanks_eq_self (h : ∀ c ∈ cs, isBlank c = false) : trimBlanks cs = cs := by
  have hstart : trimStart cs = cs := trimStart_eq_self fun c hc => h c (List.mem_of_mem_head? hc)
  have hend : trimStart cs.reverse = cs.reverse :=
    trimStart_eq_self fun c hc => h c (List.mem_reverse.mp (List.mem_of_mem_head? hc))
  rw [trimBlanks, hstart, trimEnd, ← trimStart, hend, List.reverse_reverse]

theorem trimStart_append (h : ∀ c ∈ before, isBlank c = true) (cs : List Char) :
    trimStart (before ++ cs) = trimStart cs :=
  List.dropWhile_append_of_pos h

theorem trimEnd_append (h : ∀ c ∈ after, isBlank c = true) (cs : List Char) :
    trimEnd (cs ++ after) = trimEnd cs := by
  have hreverse : ∀ c ∈ after.reverse, isBlank c = true := fun c hc => h c (List.mem_reverse.mp hc)
  rw [trimEnd, List.reverse_append, List.dropWhile_append_of_pos hreverse, trimEnd]

/-- Blanks at both ends are dropped, and none in between. -/
theorem trimBlanks_append (hbefore : ∀ c ∈ before, isBlank c = true)
    (hafter : ∀ c ∈ after, isBlank c = true) (cs : List Char) :
    trimBlanks (before ++ cs ++ after) = trimBlanks cs := by
  have hblanks : trimStart after = [] := List.dropWhile_eq_nil_iff.mpr hafter
  rw [trimBlanks, List.append_assoc, trimStart_append hbefore, trimBlanks]
  by_cases hcs : trimStart cs = []
  · -- the blanks behind a text of blanks are dropped from its front
    have hall : ∀ c ∈ cs, isBlank c = true := List.dropWhile_eq_nil_iff.mp hcs
    rw [trimStart_append hall, hblanks, hcs]
  · have hkept : trimStart (cs ++ after) = trimStart cs ++ after := by
      rw [trimStart, List.dropWhile_append, if_neg (by simpa [trimStart] using hcs), trimStart]
    rw [hkept, trimEnd_append hafter]

end RowEngine
