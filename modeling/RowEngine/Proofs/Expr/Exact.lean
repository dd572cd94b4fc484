import RowEngine.Proofs.Expr.Typing
import RowEngine.Proofs.Value.Cast

/-!
# Integer expressions are exact

An expression of integer columns, integer constants, arithmetic and minus signs never wraps around.
Its nodes may be visited one after the other, each behind its operands, with numbers that have no
bounds. The first node that has no number, or one that does not have sixty-four bits, ends the visit
with an error. Evaluation ends with the same error, or it gives the number that is left at the end.
-/

namespace RowEngine

/-- The whole number that a value is. Null is none. -/
def Value.whole? : Value → Option ℤ
  | integer n => some n.toInt
  | _ => none

namespace BinaryOp

/-- Arithmetic on all whole numbers. Division drops the fraction. -/
def exact : BinaryOp → ℤ → ℤ → ℤ
  | plus, x, y => x + y
  | minus, x, y => x - y
  | times, x, y => x * y
  | divide, x, y => x.tdiv y
  | modulo, x, y => x.tmod y
  | _, _, _ => 0

def divides : BinaryOp → Bool
  | divide | modulo => true
  | _ => false

/-- The number at a node of this operator: none if an operand is none, before the divisor is looked
at. The remainder of the least integer by `-1` is refused although it is zero. -/
def number (op : BinaryOp) : Option ℤ → Option ℤ → Except EvalError (Option ℤ)
  | some x, some y =>
    if op.divides = true ∧ y = 0 then .error .divisionByZero
    else if InRange (op.exact x y) ∧ ¬ (op = modulo ∧ x = -2 ^ 63 ∧ y = -1) then
      .ok (some (op.exact x y))
    else .error (.arithmeticOverflow op.symbol)
  | _, _ => .ok none

end BinaryOp

def negatedNumber : Option ℤ → Except EvalError (Option ℤ)
  | some x => if InRange (-x) then .ok (some (-x)) else .error (.arithmeticOverflow "-")
  | none => .ok none

theorem inRange_toInt (n : Int64) : InRange n.toInt := by
  have := n.le_toInt
  have := n.toInt_lt
  constructor <;> omega

/-- Only one quotient of integers is out of range. -/
theorem inRange_tdiv_iff {x y : ℤ} (hx : InRange x) (hy : y ≠ 0) :
    InRange (x.tdiv y) ↔ ¬ (x = -2 ^ 63 ∧ y = -1) := by
  constructor
  · rintro h ⟨rfl, rfl⟩
    exact absurd h (by decide)
  · intro hleast
    have hle := Int.natAbs_tdiv_le_natAbs x y
    unfold InRange at hx ⊢
    by_cases hpast : x.tdiv y = 2 ^ 63
    · -- a quotient past the range is as large as `x`, so the divisor is `1` or `-1`
      have hxleast : x = -2 ^ 63 := by omega
      have hmul : y * 2 ^ 63 + x.tmod y = x := hpast ▸ Int.mul_tdiv_add_tmod x y
      have hmod := Int.natAbs_tmod x y
      have hlt : x.natAbs % y.natAbs < y.natAbs := Nat.mod_lt _ (by omega)
      omega
    · omega

/-- A remainder is smaller than its divisor. -/
theorem inRange_tmod (x : ℤ) {y : ℤ} (hy : InRange y) (hzero : y ≠ 0) : InRange (x.tmod y) := by
  have hmod := Int.natAbs_tmod x y
  have hlt : x.natAbs % y.natAbs < y.natAbs := Nat.mod_lt _ (by omega)
  unfold InRange at *
  omega

namespace Value

variable {op : BinaryOp} {a b v : Value} {n : ℤ}

/-- The check of a result against sixty-four bits, in terms of the range. -/
theorem exactInteger_eq (op : BinaryOp) (n : ℤ) :
    exactInteger op n =
      if InRange n then .ok (integer (Int64.ofInt n))
      else .error (.arithmeticOverflow op.symbol) := by
  have hbounds : (Int64.minValue.toInt ≤ n ∧ n ≤ Int64.maxValue.toInt) ↔ InRange n := Iff.rfl
  unfold exactInteger int64OfInt?
  by_cases h : InRange n
  · rw [if_pos (hbounds.mpr h), if_pos h]
  · rw [if_neg (mt hbounds.mp h), if_neg h]

theorem whole_exactInteger (op : BinaryOp) (n : ℤ) : (exactInteger op n).map whole? =
    if InRange n then .ok (some n) else .error (.arithmeticOverflow op.symbol) := by
  rw [exactInteger_eq]
  by_cases h : InRange n
  · have hn : (Int64.ofInt n).toInt = n := by
      unfold InRange at h
      exact Int64.toInt_ofInt_of_le h.1 (by omega)
    simp [h, Except.map, whole?, hn]
  · simp [h, Except.map]

/-- The quotient is computed first, and it is out of range together with the remainder. -/
theorem whole_modulo (m : Int64) {n : Int64} (hn : n.toInt ≠ 0) :
    (integerArithmetic .modulo m n).map whole? =
      BinaryOp.modulo.number (some m.toInt) (some n.toInt) := by
  have hquotient := inRange_tdiv_iff (inRange_toInt m) hn
  have hremainder := inRange_tmod m.toInt (inRange_toInt n) hn
  simp only [integerArithmetic, if_neg hn, exactInteger_eq .modulo (m.toInt.tdiv n.toInt),
    BinaryOp.number, BinaryOp.exact, BinaryOp.divides, hremainder]
  by_cases hleast : m.toInt = -2 ^ 63 ∧ n.toInt = -1
  · rw [if_neg (by simpa [hquotient] using hleast)]
    simp [hleast, Except.bind, Except.map]
  · rw [if_pos (hquotient.mpr hleast)]
    simpa [hn, Except.bind, whole_exactInteger, hremainder] using hleast

/-- On two integers, only the range tells arithmetic on sixty-four bits from that on whole numbers.
-/
theorem whole_integerArithmetic (hop : op.isArithmetic = true) (m n : Int64) :
    (integerArithmetic op m n).map whole? = op.number (some m.toInt) (some n.toInt) := by
  cases op with
  | plus | minus | times =>
    simp only [integerArithmetic, whole_exactInteger]
    simp [BinaryOp.number, BinaryOp.exact, BinaryOp.divides]
  | divide =>
    by_cases hn : n.toInt = 0
    · simp [integerArithmetic, BinaryOp.number, BinaryOp.divides, hn, Except.map]
    · simp only [integerArithmetic, if_neg hn, whole_exactInteger]
      simp [BinaryOp.number, BinaryOp.exact, BinaryOp.divides, hn]
  | modulo =>
    by_cases hn : n.toInt = 0
    · simp [integerArithmetic, BinaryOp.number, BinaryOp.divides, hn, Except.map]
    · exact whole_modulo m hn
  | equal | notEqual | less | lessEqual | greater | greaterEqual | and | or => cases hop

theorem fits_integer_iff : v.Fits .integer ↔ v = null ∨ ∃ n, v = integer n := by
  cases v <;> simp [Fits, type]

/-- Null on either side makes the result null in both. -/
theorem whole_arithmetic (hop : op.isArithmetic = true) (ha : a.Fits .integer)
    (hb : b.Fits .integer) : (a.arithmetic op b).map whole? = op.number a.whole? b.whole? := by
  rcases fits_integer_iff.mp ha with rfl | ⟨m, rfl⟩
  · rfl
  · rcases fits_integer_iff.mp hb with rfl | ⟨n, rfl⟩
    · rfl
    · exact whole_integerArithmetic hop m n

theorem whole_negate (hv : v.Fits .integer) : v.negate.map whole? = negatedNumber v.whole? := by
  rcases fits_integer_iff.mp hv with rfl | ⟨n, rfl⟩
  · rfl
  · have hrange := inRange_toInt n
    have hleast : Int64.minValue.toInt = -2 ^ 63 := rfl
    by_cases hn : n = Int64.minValue
    · subst hn
      rfl
    · have hmin : n.toInt ≠ -2 ^ 63 := fun h => hn (Int64.toInt_inj.mp (h.trans hleast.symm))
      have hneg : InRange (-n.toInt) := by
        unfold InRange at hrange ⊢
        omega
      have hvalue : (-n).toInt = -n.toInt := by
        unfold InRange at hneg
        rw [Int64.toInt_neg, Int.bmod_eq_of_le (by omega) (by omega)]
      simp [negate, hn, negatedNumber, whole?, hneg, Except.map, hvalue]

end Value

namespace Expr

/-- The nodes of an expression of arithmetic, left to right, each behind its operands. -/
def postorder : Expr → List Expr
  | unary op arg => arg.postorder ++ [unary op arg]
  | binary op left right type => left.postorder ++ right.postorder ++ [binary op left right type]
  | e => [e]

/-- Visits a node with the numbers that are not used up yet, the last one first. The node takes
those of its operands away and leaves its own. -/
def visit (row : RowView) (numbers : List (Option ℤ)) : Expr → Except EvalError (List (Option ℤ))
  | column i _ _ => .ok ((row.value i).bind Value.whole? :: numbers)
  | const v => .ok (v.whole? :: numbers)
  | unary .negate _ =>
    match numbers with
    | x :: rest => (negatedNumber x).map (· :: rest)
    | [] => .ok []
  | binary op _ _ _ =>
    match numbers with
    | y :: x :: rest => (op.number x y).map (· :: rest)
    | rest => .ok rest
  | _ => .ok numbers

/-- Expressions of integer columns and integer constants that are built over a schema by the
constructors of arithmetic. -/
inductive IntegerBuilt (schema : Schema) : Expr → Prop where
  | columnAt {i : Nat} {s : Expr} (h : columnAt schema i = .ok s) (htype : s.type = .integer) :
      IntegerBuilt schema s
  | columnNamed {name : String} {s : Expr} (h : columnNamed schema name = .ok s)
      (htype : s.type = .integer) : IntegerBuilt schema s
  | const (n : Int64) : IntegerBuilt schema (const (.integer n))
  | negate {e s : Expr} (he : IntegerBuilt schema e) (h : negate e = .ok s) :
      IntegerBuilt schema s
  | arithmetic {op : BinaryOp} {l r s : Expr} (hop : op.isArithmetic = true)
      (hl : IntegerBuilt schema l) (hr : IntegerBuilt schema r) (h : binaryOf op l r = .ok s) :
      IntegerBuilt schema s

def HoldsIntegers (row : RowView) (schema : Schema) : Prop :=
  ∀ i c, schema.columns[i]? = some c → c.type = .integer →
    ∃ v, row.value i = some v ∧ v.Fits .integer

variable {schema : Schema} {row : RowView} {e l r : Expr} {op : BinaryOp}

/-- Evaluation gives null or an integer, and visiting the nodes comes to the same: it leaves the
number of the value, on top of what was there before, or ends with the same error. -/
structure Exact (schema : Schema) (row : RowView) (e : Expr) : Prop where
  fits : ∀ v, (e.eval schema row).result = .ok v → v.Fits .integer
  visited : ∀ numbers, e.postorder.foldlM (visit row) numbers =
    (e.eval schema row).result.map fun v => v.whole? :: numbers

/-- Where the value is that of a single visit, evaluation and the stack machine agree at once. -/
theorem exact_of_value {v : Value} (heval : e.eval schema row = .ok v) (hv : v.Fits .integer)
    (hnodes : e.postorder = [e])
    (hvisit : ∀ numbers, visit row numbers e = .ok (v.whole? :: numbers)) :
    Exact schema row e := by
  constructor
  · rw [heval]
    rintro _ ⟨⟩
    exact hv
  · intro numbers
    rw [hnodes, heval, List.foldlM_cons, hvisit]
    rfl

theorem exact_column {i : Nat} (hrow : HoldsIntegers row schema) (h : columnAt schema i = .ok e)
    (htype : e.type = .integer) : Exact schema row e := by
  obtain ⟨c, hc, rfl⟩ := columnAt_eq_ok h
  obtain ⟨v, hv, hfits⟩ := hrow i c hc htype
  refine exact_of_value (v := v) ?_ hfits rfl fun numbers => ?_
  · rw [eval, hv]
  · simp [visit, hv]

theorem result_negate : ((unary .negate e).eval schema row).result =
    (e.eval schema row).result >>= Value.negate := by
  rw [eval]
  simp [Traced.ofExcept]

theorem exact_negate (he : Exact schema row e) : Exact schema row (unary .negate e) := by
  constructor
  · intro v hv
    rw [result_negate, bind_eq_ok] at hv
    obtain ⟨a, ha, hv⟩ := hv
    have hreturns := Value.returns_negate (he.fits a ha) rfl
    rwa [hv] at hreturns
  · intro numbers
    rw [postorder, List.foldlM_append, he.visited, result_negate]
    cases ha : (e.eval schema row).result with
    | error err => rfl
    | ok a =>
      have hnumber := Value.whole_negate (he.fits a ha)
      calc [unary .negate e].foldlM (visit row) (a.whole? :: numbers)
        _ = visit row (a.whole? :: numbers) (unary .negate e) := by simp
        _ = (a.negate.map Value.whole?).map (· :: numbers) := by rw [visit, hnumber]
        _ = a.negate.map fun v => v.whole? :: numbers := by cases a.negate <;> rfl

theorem result_arithmetic (hop : op.isArithmetic = true) (type : DataType) :
    ((binary op l r type).eval schema row).result =
      (l.eval schema row).result >>= fun a => (r.eval schema row).result >>= a.arithmetic op := by
  cases op with
  | plus | minus | times | divide | modulo => exact result_binary rfl schema row l r type
  | equal | notEqual | less | lessEqual | greater | greaterEqual | and | or => cases hop

/-- The machine visits the operands first, so their numbers are the two on top of the stack. -/
theorem exact_arithmetic (hop : op.isArithmetic = true) (type : DataType)
    (hl : Exact schema row l) (hr : Exact schema row r) :
    Exact schema row (binary op l r type) := by
  constructor
  · intro v hv
    rw [result_arithmetic hop] at hv
    obtain ⟨a, ha, hv⟩ := bind_eq_ok.mp hv
    obtain ⟨b, hb, hv⟩ := bind_eq_ok.mp hv
    have hreturns := Value.returns_arithmetic hop (hl.fits a ha) (hr.fits b hb) rfl rfl
    rwa [hv] at hreturns
  · intro numbers
    rw [postorder, List.foldlM_append, List.foldlM_append, hl.visited, result_arithmetic hop]
    cases ha : (l.eval schema row).result with
    | error err => rfl
    | ok a =>
      change (r.postorder.foldlM (visit row) (a.whole? :: numbers) >>= _) = _
      rw [hr.visited]
      cases hb : (r.eval schema row).result with
      | error err => rfl
      | ok b =>
        have hnumber := Value.whole_arithmetic hop (hl.fits a ha) (hr.fits b hb)
        calc [binary op l r type].foldlM (visit row) (b.whole? :: a.whole? :: numbers)
          _ = visit row (b.whole? :: a.whole? :: numbers) (binary op l r type) := by simp
          _ = ((a.arithmetic op b).map Value.whole?).map (· :: numbers) := by rw [visit, hnumber]
          _ = (a.arithmetic op b).map fun v => v.whole? :: numbers := by
            cases a.arithmetic op b <;> rfl

/-- The induction is on how the expression was built. -/
theorem IntegerBuilt.exact (hrow : HoldsIntegers row schema) (h : e.IntegerBuilt schema) :
    Exact schema row e := by
  induction h with
  | columnAt h htype => exact exact_column hrow h htype
  | columnNamed h htype =>
    obtain ⟨i, h⟩ := columnNamed_eq_ok h
    exact exact_column hrow h htype
  | const n =>
    exact exact_of_value (v := .integer n) (by rw [eval]) (Value.fits_type _) rfl fun _ => rfl
  | negate _ h ih =>
    obtain ⟨rfl, -⟩ := negate_eq_ok h
    exact exact_negate ih
  | arithmetic hop _ _ h ihl ihr =>
    obtain ⟨type, rfl, -⟩ := binaryOf_eq_ok h
    exact exact_arithmetic hop type ihl ihr

/-- Evaluating an integer expression gives null or an integer, namely the number that is left when
its nodes are visited with numbers that have no bounds, or the error of the first node that fails.
In particular, a right operand fails also behind a left one that is null. -/
theorem eval_exact (h : e.IntegerBuilt schema) (hrow : HoldsIntegers row schema) :
    (∀ v, (e.eval schema row).result = .ok v → v.Fits .integer) ∧
    (e.eval schema row).result.map (fun v => [v.whole?]) = e.postorder.foldlM (visit row) [] ∧
    ∀ (op : BinaryOp) l r type err, op.isArithmetic = true →
      (l.eval schema row).result = .ok .null → (r.eval schema row).result = .error err →
      ((binary op l r type).eval schema row).result = .error err := by
  have hexact := h.exact hrow
  refine ⟨hexact.fits, (hexact.visited []).symm, ?_⟩
  intro op l r type err hop hl hr
  rw [result_arithmetic hop, hl, hr]
  rfl

/-- The expression `n + -9223372036854775808 % -1`. -/
def remainderBehindColumn : Expr :=
  binary .plus (column 0 .integer "n") (binary .modulo (const (.integer Int64.minValue))
    (const (.integer (-1))) .integer) .integer

/-- Where the column is null, the remainder still overflows. -/
theorem eval_exact_remainder :
    let schema := (Relation.ofIntegers "n" []).schema
    let row := Row.view [.null]
    remainderBehindColumn.IntegerBuilt schema ∧ HoldsIntegers row schema ∧
    (remainderBehindColumn.eval schema row).result = .error (.arithmeticOverflow "%") ∧
    remainderBehindColumn.postorder.foldlM (visit row) [] = .error (.arithmeticOverflow "%") := by
  intro schema row
  have hcolumn : (column 0 .integer "n").IntegerBuilt schema := .columnAt (i := 0) rfl rfl
  have hremainder := @IntegerBuilt.arithmetic schema .modulo _ _ _ rfl
    (.const Int64.minValue) (.const (-1)) rfl
  have h : remainderBehindColumn.IntegerBuilt schema :=
    @IntegerBuilt.arithmetic schema .plus _ _ _ rfl hcolumn hremainder rfl
  have hrow : HoldsIntegers row schema := by
    intro i c hc _
    cases i with
    | zero => exact ⟨.null, rfl, Value.fits_null _⟩
    | succ i => simp [schema, Relation.ofIntegers] at hc
  obtain ⟨-, hvisit, hright⟩ := eval_exact h hrow
  have heval := hright .plus _ _ .integer (.arithmeticOverflow "%") rfl
    (show ((column 0 .integer "n").eval schema row).result = .ok .null from rfl)
    (show ((binary .modulo (const (.integer Int64.minValue)) (const (.integer (-1))) .integer).eval
      schema row).result = _ from rfl)
  refine ⟨h, hrow, heval, ?_⟩
  rw [← hvisit, show (remainderBehindColumn.eval schema row).result = _ from heval]
  rfl

end Expr

end RowEngine
