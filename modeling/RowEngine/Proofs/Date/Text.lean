import RowEngine.Proofs.Text.Digits

/-!
# Dates read back

The text of a date is read as the date it was written for. A year that has more than four digits or
lies before the year zero has a sign, and behind a sign any number of digits is read.
-/

namespace RowEngine.Date

variable {most : Option Nat} {run rest cs : List Char} {width n : Nat}

/-- Digits are read up to the first character that is none. -/
theorem digitRun?_append (hne : run ≠ []) (hrun : ∀ c ∈ run, c.isDigit = true)
    (hmost : ∀ m ∈ most, run.length ≤ m) (hrest : ∀ c ∈ rest.head?, c.isDigit = false) :
    digitRun? most (run ++ rest) = some (natOfDigits 10 run, rest) := by
  have hstop : rest.takeWhile Char.isDigit = [] := by
    cases rest with
    | nil => rfl
    | cons c rest => exact List.takeWhile_cons_of_neg (by simp [hrest c rfl])
  have htaken : (run ++ rest).takeWhile Char.isDigit = run := by
    rw [List.takeWhile_append_of_pos hrun, hstop, List.append_nil]
  cases most with
  | none => simp [digitRun?, htaken, hne]
  | some m => simp [digitRun?, htaken, List.take_of_length_le (hmost m rfl), hne]

theorem digitRun?_paddedDigits (hmost : ∀ m ∈ most, (paddedDigits width n).length ≤ m)
    (hrest : ∀ c ∈ rest.head?, c.isDigit = false) :
    digitRun? most (paddedDigits width n ++ rest) = some (n, rest) := by
  rw [digitRun?_append (paddedDigits_ne_nil width n) (fun _ => isDigit_of_mem_paddedDigits) hmost
    hrest, natOfDigits_paddedDigits]

/-- Without a sign, no more than four digits are read. -/
theorem readYear?_unsigned (h : ∀ c ∈ cs.head?, c.isDigit = true) :
    readYear? cs = (digitRun? (some 4) cs).map fun (n, after) => ((n : Int), after) := by
  unfold readYear?
  split
  · exact absurd (h '-' rfl) (by decide)
  · exact absurd (h '+' rfl) (by decide)
  · rfl

/-- A year that is written is read back, whatever follows that is no digit. -/
theorem readYear?_yearText (year : Int) (hrest : ∀ c ∈ rest.head?, c.isDigit = false) :
    readYear? (yearText year ++ rest) = some (year, rest) := by
  have hsigned : digitRun? none (paddedDigits 4 year.natAbs ++ rest) =
      some (year.natAbs, rest) := digitRun?_paddedDigits (by simp) hrest
  by_cases hneg : year < 0
  · have hyear : -(year.natAbs : Int) = year := by omega
    rw [yearText, if_pos hneg, List.cons_append, readYear?, hsigned, Option.map_some]
    exact congrArg (fun y => some (y, rest)) hyear
  · have hyear : (year.natAbs : Int) = year := by omega
    by_cases hfour : year ≤ 9999
    · have hlength : ∀ m ∈ some 4, (paddedDigits 4 year.natAbs).length ≤ m := by
        rintro _ ⟨⟩
        exact length_paddedDigits_le (by decide) (by omega)
      rw [yearText, if_neg hneg, if_pos hfour, readYear?_unsigned (head_paddedDigits _ _ _),
        digitRun?_paddedDigits hlength hrest, Option.map_some]
      exact congrArg (fun y => some (y, rest)) hyear
    · rw [yearText, if_neg hneg, if_neg hfour, List.cons_append, readYear?, hsigned,
        Option.map_some]
      exact congrArg (fun y => some (y, rest)) hyear

/-- There are no blanks in front of a number or before a dash. -/
theorem trimStart_paddedDigits (width n : Nat) (rest : List Char) :
    trimStart (paddedDigits width n ++ rest) = paddedDigits width n ++ rest :=
  trimStart_eq_self fun c hc => isBlank_of_isDigit (head_paddedDigits width n rest c hc)

theorem trimStart_yearText (year : Int) (rest : List Char) :
    trimStart (yearText year ++ rest) = yearText year ++ rest := by
  unfold yearText
  split
  · rfl
  · split
    · exact trimStart_paddedDigits _ _ _
    · rfl

theorem length_month_le (d : Date) : ∀ m ∈ some 2, (paddedDigits 2 d.month).length ≤ m := by
  rintro _ ⟨⟩
  obtain ⟨-, -, -, hmonth, -⟩ := d.exists_day
  exact length_paddedDigits_le (by decide) (by omega)

theorem length_day_le (d : Date) : ∀ m ∈ some 2, (paddedDigits 2 d.day).length ≤ m := by
  rintro _ ⟨⟩
  obtain ⟨-, -, -, -, -, hday⟩ := d.exists_day
  have hmost : daysInMonth d.year d.month ≤ 31 := by
    unfold daysInMonth
    grind
  exact length_paddedDigits_le (by decide) (by omega)

theorem of?_self (d : Date) : of? d.year d.month d.day = some d := dif_pos d.exists_day

theorem toList_text (d : Date) : d.text.toList =
    yearText d.year ++ '-' :: (paddedDigits 2 d.month ++ '-' :: (paddedDigits 2 d.day ++ [])) := by
  simp [text]

/-- A date that is written is read back, whether or not blanks are allowed inside. -/
theorem read?_text (loose : Bool) (d : Date) : read? loose d.text.toList = some d := by
  have hgap (cs : List Char) :
      (if loose then trimStart ('-' :: cs) else '-' :: cs) = '-' :: cs := by
    cases loose <;> rfl
  have hend : (if loose then trimStart [] else []) = [] := by cases loose <;> rfl
  have hdash (cs : List Char) : ∀ c ∈ ('-' :: cs).head?, c.isDigit = false := by
    rintro _ ⟨⟩
    rfl
  have hnil : ∀ c ∈ ([] : List Char).head?, c.isDigit = false := by simp
  have hyear (cs : List Char) := readYear?_yearText d.year (hdash cs)
  have hmonth (cs : List Char) := digitRun?_paddedDigits (length_month_le d) (hdash cs)
  have hday := digitRun?_paddedDigits (length_day_le d) hnil
  rw [toList_text]
  simp only [read?, dash?, bind, Option.bind, trimStart_yearText, hyear, hgap,
    trimStart_paddedDigits, hmonth, hday, hend]
  exact of?_self d

theorem isBlank_of_mem_yearText {c : Char} {year : Int} (h : c ∈ yearText year) :
    isBlank c = false := by
  unfold yearText at h
  split at h
  · rcases List.mem_cons.mp h with rfl | h
    · rfl
    · exact isBlank_of_mem_paddedDigits h
  · split at h
    · exact isBlank_of_mem_paddedDigits h
    · rcases List.mem_cons.mp h with rfl | h
      · rfl
      · exact isBlank_of_mem_paddedDigits h

/-- No blank is written in a date. -/
theorem isBlank_of_mem_text {c : Char} {d : Date} (h : c ∈ d.text.toList) : isBlank c = false := by
  simp only [toList_text, List.mem_append, List.mem_cons, List.not_mem_nil, or_false] at h
  rcases h with h | rfl | h | rfl | h
  · exact isBlank_of_mem_yearText h
  · rfl
  · exact isBlank_of_mem_paddedDigits h
  · rfl
  · exact isBlank_of_mem_paddedDigits h

end RowEngine.Date
