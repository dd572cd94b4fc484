import RowEngine.Expr.Arithmetic
import RowEngine.Expr.Logic
import RowEngine.Proofs.Outcome
import RowEngine.Proofs.Value.Conforming
import RowEngine.Value.Cast

/-!
# Types of results

An operation on values of fitting types gives a value of the type that was settled for it, or it
fails for a reason that lies in the values: an overflow, a zero divisor, a cast that has no result.
-/

namespace RowEngine

/-- The failures that depend on the values of a row and not only on their types. -/
def EvalError.isDataDependent : EvalError → Bool
  | arithmeticOverflow _ | divisionByZero | functionFailed _ _ | invalidCast _ _ | extension _ =>
    true
  | columnOutOfBounds _ _ | invalidOperands _ _ _ | notScalar _ => false

/-- A result with a property, or a failure that lies in the data. -/
def Returns {α : Type} (P : α → Prop) : Except EvalError α → Prop
  | .ok a => P a
  | .error e => e.isDataDependent = true

theorem Returns.mono {α : Type} {P Q : α → Prop} {x : Except EvalError α} (hx : Returns P x)
    (h : ∀ a, P a → Q a) : Returns Q x := by
  cases x with
  | error e => exact hx
  | ok a => exact h a hx

theorem Returns.bind {α β : Type} {P : α → Prop} {Q : β → Prop} {x : Except EvalError α}
    {f : α → Except EvalError β} (hx : Returns P x) (hf : ∀ a, P a → Returns Q (f a)) :
    Returns Q (x >>= f) := by
  cases x with
  | error e => exact hx
  | ok a => exact hf a hx

namespace Value

variable {a b v w : Value} {s t : DataType}

theorem fits_null_iff : v.Fits .null ↔ v = .null := by
  cases v <;> simp [Fits, type]

theorem eq_null (h : v.isNull = true) : v = null := by
  cases v <;> simp_all [isNull]

theorem fits_boolean (b : Bool) : (boolean b).Fits .boolean := .inr rfl

theorem eq_integer (h : v.type = .integer) : ∃ n, v = integer n := by
  cases v <;> simp_all [type]

theorem eq_float (h : v.type = .float) : ∃ x, v = float x := by
  cases v <;> simp_all [type]

theorem eq_text (h : v.type = .text) : ∃ s, v = text s := by
  cases v <;> simp_all [type]

/-- A number that is not null has the type of its expression. -/
theorem Fits.operand (h : v.Fits t) (ht : t.isOperand = true) (hv : v.isNull = false) :
    (∃ n, v = integer n ∧ t = .integer) ∨ ∃ x, v = float x ∧ t = .float := by
  obtain rfl := h.type_eq hv
  cases v with
  | integer n => exact .inl ⟨n, rfl, rfl⟩
  | float x => exact .inr ⟨x, rfl, rfl⟩
  | null => cases hv
  | boolean | text | date | blob => cases ht

theorem fits_not3 (v : Value) : v.not3.Fits .boolean := by
  cases v <;> simp [not3, Fits, type]

theorem fits_and3 (a b : Value) : (a.and3 b).Fits .boolean := by
  unfold and3
  split <;> simp [Fits, type]

theorem fits_compare3 (accept : Ordering → Bool) (a b : Value) :
    (a.compare3 accept b).Fits .boolean := by
  unfold compare3
  split <;> simp [Fits, type]

theorem fits_negateIf (negated : Bool) (h : v.Fits .boolean) :
    (v.negateIf negated).Fits .boolean := by
  cases negated with
  | false => exact h
  | true => exact fits_not3 v

/-- A search among values gives a truth value, unknown included. -/
theorem fits_isIn (v : Value) (items : List Value) : (v.isIn items).Fits .boolean := by
  unfold isIn
  split
  · exact fits_null _
  split
  · exact fits_boolean _
  split
  · exact fits_null _
  · exact fits_boolean _

theorem returns_negation (hv : v.Fits t) (ht : t.isCondition = true) :
    Returns (·.Fits .boolean) v.negation := by
  cases hnull : v.isNull with
  | true =>
    rw [eq_null hnull]
    exact fits_null _
  | false =>
    obtain rfl := hv.type_eq hnull
    cases v with
    | null => exact fits_null _
    | boolean b => exact fits_boolean _
    | integer | float | text | date | blob => cases ht

theorem returns_exactInteger (op : BinaryOp) (n : Int) :
    Returns (·.Fits .integer) (exactInteger op n) := by
  unfold exactInteger
  cases int64OfInt? n with
  | some i => exact fits_type (integer i)
  | none => rfl

/-- A result out of range is a failure that lies in the data. -/
theorem returns_integerArithmetic {op : BinaryOp} (hop : op.isArithmetic = true) (m n : Int64) :
    Returns (·.Fits .integer) (integerArithmetic op m n) := by
  cases op with
  | plus | minus | times => exact returns_exactInteger _ _
  | divide =>
    simp only [integerArithmetic]
    split
    · rfl
    · exact returns_exactInteger _ _
  | modulo =>
    simp only [integerArithmetic]
    split
    · rfl
    · exact (returns_exactInteger _ _).bind fun _ _ => returns_exactInteger _ _
  | equal | notEqual | less | lessEqual | greater | greaterEqual | and | or => cases hop

theorem returns_floatArithmetic {op : BinaryOp} (hop : op.isArithmetic = true) (a b : Value)
    (x y : Binary64) : Returns (·.Fits .float) (floatArithmetic op a b x y) := by
  cases op with
  | plus | minus | times => exact fits_type (float _)
  | divide | modulo =>
    simp only [floatArithmetic]
    split
    · rfl
    · exact fits_type (float _)
  | equal | notEqual | less | lessEqual | greater | greaterEqual | and | or => cases hop

/-- The type of an arithmetic operation is that of its result, on all values that fit the types of
the operands. -/
theorem returns_arithmetic {op : BinaryOp} (hop : op.isArithmetic = true) (ha : a.Fits s)
    (hb : b.Fits t) (hs : s.isOperand = true) (ht : t.isOperand = true) :
    Returns (·.Fits (s.arithmetic t)) (a.arithmetic op b) := by
  cases hnull : a.isNull || b.isNull with
  | true =>
    unfold arithmetic
    rw [if_pos hnull]
    exact fits_null _
  | false =>
    obtain ⟨hanull, hbnull⟩ := Bool.or_eq_false_iff.mp hnull
    rcases ha.operand hs hanull with ⟨m, rfl, rfl⟩ | ⟨x, rfl, rfl⟩ <;>
      rcases hb.operand ht hbnull with ⟨n, rfl, rfl⟩ | ⟨y, rfl, rfl⟩
    · exact returns_integerArithmetic hop m n
    all_goals exact returns_floatArithmetic hop _ _ _ _

theorem returns_negate (hv : v.Fits t) (ht : t.isOperand = true) :
    Returns (·.Fits t) v.negate := by
  cases hnull : v.isNull with
  | true =>
    rw [eq_null hnull]
    exact fits_null _
  | false =>
    rcases hv.operand ht hnull with ⟨n, rfl, rfl⟩ | ⟨x, rfl, rfl⟩
    · simp only [negate]
      split
      · rfl
      · exact fits_type (integer _)
    · exact fits_type (float _)

theorem fits_ofText? {text : String} (h : ofText? text t = some w) : w.Fits t := by
  cases t <;> simp only [ofText?, Option.map_eq_some_iff, Option.some.injEq] at h
  case null => exact .inl h.symm
  case text | blob =>
    obtain rfl := h
    exact fits_type _
  all_goals
    obtain ⟨x, -, rfl⟩ := h
    exact fits_type _

theorem fits_convert? (h : v.convert? t = some w) : w.Fits t := by
  unfold convert? at h
  split at h
  · exact .inl (Option.some.inj h).symm
  · obtain rfl := Option.some.inj h
    exact fits_type _
  · obtain rfl := Option.some.inj h
    exact fits_type _
  · obtain ⟨n, -, rfl⟩ := Option.map_eq_some_iff.mp h
    exact fits_type _
  · obtain rfl := Option.some.inj h
    exact fits_type _
  · obtain rfl := Option.some.inj h
    exact fits_type _
  · exact fits_ofText? h
  · cases h

/-- A cast gives a value of its target or fails for the value at hand, whatever the two types. -/
theorem returns_cast (v : Value) (t : DataType) : Returns (·.Fits t) (v.cast t) := by
  unfold cast
  split
  · rename_i hv
    rcases hv with hv | hv
    · exact .inr hv
    · rw [eq_null hv]
      exact fits_null _
  · cases h : v.convert? t with
    | some w => exact fits_convert? h
    | none => rfl

end Value

end RowEngine
