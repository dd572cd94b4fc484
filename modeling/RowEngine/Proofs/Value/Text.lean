import RowEngine.Proofs.Date.Text
import RowEngine.Value.Cast

/-!
# Values read back from their texts

The text of an integer, a boolean or a date casts back to the value, whatever blanks are put before
and after it.
-/

namespace RowEngine

theorem toList_toString (n : Int) :
    (toString n).toList = (if n < 0 then ['-'] else []) ++ paddedDigits 0 n.natAbs := by
  rw [paddedDigits_zero]
  cases n with
  | ofNat m => simp [Int.toString_eq_repr, Int.repr, Nat.repr_eq_ofList_toDigits]
  | negSucc m =>
    simp [Int.toString_eq_repr, Int.repr, Nat.repr_eq_ofList_toDigits, Int.negSucc_lt_zero]

theorem isBlank_of_mem_toString {c : Char} {n : Int} (h : c ∈ (toString n).toList) :
    isBlank c = false := by
  rw [toList_toString] at h
  rcases List.mem_append.mp h with h | h
  · by_cases hneg : n < 0
    · rw [if_pos hneg, List.mem_singleton] at h
      rw [h]
      rfl
    · simp [hneg] at h
  · exact isBlank_of_mem_paddedDigits h

theorem splitSign_unsigned {cs : List Char} (h : ∀ c ∈ cs.head?, c.isDigit = true) :
    splitSign cs = (false, cs) := by
  unfold splitSign
  split
  · exact absurd (h '-' rfl) (by decide)
  · exact absurd (h '+' rfl) (by decide)
  · rfl

theorem splitSign_toString (n : Int) :
    splitSign (toString n).toList = (decide (n < 0), paddedDigits 0 n.natAbs) := by
  rw [toList_toString]
  by_cases hneg : n < 0
  · rw [if_pos hneg, decide_eq_true hneg]
    rfl
  · have hhead := head_paddedDigits 0 n.natAbs []
    rw [List.append_nil] at hhead
    rw [if_neg hneg, decide_eq_false hneg, List.nil_append, splitSign_unsigned hhead]

theorem int64OfInt?_toInt (n : Int64) : int64OfInt? n.toInt = some n := by
  rw [int64OfInt?, if_pos ⟨n.minValue_le_toInt, n.toInt_le⟩, Int64.ofInt_toInt]

/-- An integer that is written is read back. -/
theorem readInt64?_toString (n : Int64) : readInt64? (toString n.toInt).toList = some n := by
  have hdigits : (paddedDigits 0 n.toInt.natAbs).all Char.isDigit = true :=
    List.all_eq_true.mpr fun _ => isDigit_of_mem_paddedDigits
  have hsign : (if decide (n.toInt < 0) then -(n.toInt.natAbs : Int) else n.toInt.natAbs) =
      n.toInt := by
    by_cases hneg : n.toInt < 0
    · rw [decide_eq_true hneg, if_pos rfl]
      omega
    · rw [decide_eq_false hneg, if_neg Bool.false_ne_true]
      omega
  rw [readInt64?, splitSign_toString]
  simp only [hdigits, natOfDigits_paddedDigits, hsign, int64OfInt?_toInt]
  simp [Nat.toDigits_ne_nil]

namespace Value

variable {before after : String} {t : DataType} {v : Value}

theorem booleanOf?_toString (b : Bool) : booleanOf? (boolean b).toString = some b := by
  cases b <;> rfl

def Blank (s : String) : Prop := ∀ c ∈ s.toList, isBlank c = true

instance (s : String) : Decidable (Blank s) :=
  List.decidableBAll (isBlank · = true) s.toList

theorem trimBlanks_between (hbefore : Blank before) (hafter : Blank after) (s : String) :
    trimBlanks (before ++ s ++ after).toList = trimBlanks s.toList := by
  rw [String.toList_append, String.toList_append, trimBlanks_append hbefore hafter]

/-- Blanks around a literal make no difference to what is read. -/
theorem ofText?_between (hbefore : Blank before) (hafter : Blank after) (s : String)
    (ht : t = .integer ∨ t = .boolean ∨ t = .date) :
    ofText? (before ++ s ++ after) t = ofText? s t := by
  have htrim := trimBlanks_between hbefore hafter s
  rcases ht with rfl | rfl | rfl
  · rw [ofText?, htrim, ofText?]
  · rw [ofText?, booleanOf?, htrim, ofText?, booleanOf?]
  · rw [ofText?, htrim, ofText?]

/-- A value that is written is read back as a value of its type. -/
theorem ofText?_toString (hv : v.type = .integer ∨ v.type = .boolean ∨ v.type = .date) :
    ofText? v.toString v.type = some v := by
  cases v with
  | boolean b => rw [type, ofText?, booleanOf?_toString, Option.map_some]
  | integer n =>
    have htrim : trimBlanks (toString n.toInt).toList = (toString n.toInt).toList :=
      trimBlanks_eq_self fun _ => isBlank_of_mem_toString
    rw [Value.toString, type, ofText?, htrim, readInt64?_toString, Option.map_some]
  | date d =>
    have htrim : trimBlanks d.text.toList = d.text.toList :=
      trimBlanks_eq_self fun _ => Date.isBlank_of_mem_text
    rw [Value.toString, type, ofText?, htrim, Date.read?_text, Option.map_some]
  | _ => simp [type] at hv

theorem cast_to_text (hv : v.isNull = false) : v.cast .text = .ok (text v.toString) := by
  cases v <;> first | rfl | cases hv

theorem cast_of_text {s : String} (ht : t ≠ .text) (htnull : t ≠ .null)
    (h : ofText? s t = some v) : (text s).cast t = .ok v := by
  have hconvert : (text s).convert? t = some v := by
    rw [← h]
    cases t <;> rfl
  rw [cast, if_neg (by simp [type, isNull, ht.symm]), hconvert]

/-- An integer, a boolean or a date has a text that casts back to it, with any blanks before and
after the text. -/
theorem cast_text_round_trip (hv : v.type = .integer ∨ v.type = .boolean ∨ v.type = .date) :
    ∃ s, v.cast .text = .ok (text s) ∧
      ∀ before after, Blank before → Blank after →
        (text (before ++ s ++ after)).cast v.type = .ok v := by
  have htypes : v.type ≠ .text ∧ v.type ≠ .null := by
    rcases hv with h | h | h <;> simp [h]
  have hnull : v.isNull = false := by
    cases v <;> first | rfl | simp [type] at hv
  refine ⟨v.toString, cast_to_text hnull, fun before after hbefore hafter => ?_⟩
  refine cast_of_text htypes.1 htypes.2 ?_
  rw [ofText?_between hbefore hafter _ hv, ofText?_toString hv]

/-- The smallest integer, and a leap day of a year with five digits. -/
theorem cast_text_round_trip_signs :
    (text "\t-9223372036854775808\u00a0").cast .integer = .ok (integer Int64.minValue) ∧
      (text "\u3000+12000-02-29\n").cast .date = .ok (date ⟨12000, 2, 29, by decide⟩) := by
  obtain ⟨s, hs, hinteger⟩ := cast_text_round_trip (v := integer Int64.minValue) (.inl rfl)
  obtain ⟨u, hu, hdate⟩ :=
    cast_text_round_trip (v := date ⟨12000, 2, 29, by decide⟩) (.inr (.inr rfl))
  cases hs
  cases hu
  exact ⟨hinteger "\t" "\u00a0" (by decide) (by decide),
    hdate "\u3000" "\n" (by decide) (by decide)⟩

end Value

end RowEngine
