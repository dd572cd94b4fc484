import RowEngine.Expr.Arithmetic
import RowEngine.Expr.Basic
import RowEngine.Expr.Logic
import RowEngine.Traced
import RowEngine.Value.Cast

/-!
# Evaluation of expressions

Sub-expressions are evaluated left to right, and the first error ends the evaluation. `AND` leaves
out its right side if the left one is false, `OR` if it is true, and `CASE` evaluates no branch
after the first whose condition is true. The trace tells which functions and extensions were called,
and with which arguments.
-/

namespace RowEngine

inductive Call where
  | function (f : ScalarFunction) (args : List Value)
  | extension (node : Extension)

abbrev Evaluation (α : Type) := Traced EvalError Call α

/-- Calls a function, unless a null argument settles the result. -/
def ScalarFunction.apply (f : ScalarFunction) (args : List Value) : Evaluation Value :=
  if f.nullPolicy = .returnsNull ∧ args.any Value.isNull then .ok .null
  else (Traced.ofExcept (f.body args)).after (.function f args)

namespace BinaryOp

/-- The value of a logical operator that its left side alone decides. -/
def decided? : BinaryOp → Value → Option Value
  | and, .boolean false => some (.boolean false)
  | or, .boolean true => some (.boolean true)
  | _, _ => none

def apply (op : BinaryOp) (a b : Value) : Except EvalError Value :=
  match op with
  | and => .ok (a.and3 b)
  | or => .ok (a.or3 b)
  | equal => .ok (a.compare3 Ordering.isEq b)
  | notEqual => .ok (a.compare3 Ordering.isNe b)
  | less => .ok (a.compare3 Ordering.isLT b)
  | lessEqual => .ok (a.compare3 Ordering.isLE b)
  | greater => .ok (a.compare3 Ordering.isGT b)
  | greaterEqual => .ok (a.compare3 Ordering.isGE b)
  | _ => a.arithmetic op b

end BinaryOp

namespace Expr

mutual

def eval (schema : Schema) (row : RowView) : Expr → Evaluation Value
  | column id _ _ =>
    match row.value id with
    | some v => .ok v
    | none => .error (.columnOutOfBounds id row.width)
  | const v => .ok v
  | rowConst _ => .error (.notScalar "row constant")
  | unary op arg => do
    let v ← eval schema row arg
    match op with
    | .not => .ofExcept v.negation
    | .negate => .ofExcept v.negate
  | binary op left right _ => do
    let a ← eval schema row left
    match op.decided? a with
    | some v => .ok v
    | none =>
      let b ← eval schema row right
      .ofExcept (op.apply a b)
  | isNull arg negated => do
    let v ← eval schema row arg
    .ok (.boolean (v.isNull != negated))
  | between arg low high negated => do
    let v ← eval schema row arg
    let a ← eval schema row low
    let b ← eval schema row high
    .ok (.negateIf negated ((v.compare3 Ordering.isGE a).and3 (v.compare3 Ordering.isLE b)))
  | inList arg list negated =>
    match list with
    | rowConst items => do
      let v ← eval schema row arg
      .ok (.negateIf negated (v.isIn items))
    | _ => .error (.notScalar "IN list")
  | like arg _ regex negated => do
    match ← eval schema row arg with
    | .null => .ok .null
    | .text s => .ok (.boolean (regex.isMatch s != negated))
    | v => .error (.invalidOperands "LIKE" v.type .text)
  | cast arg target => do
    let v ← eval schema row arg
    .ofExcept (v.cast target)
  | caseWhen branches otherwise _ => do
    match ← evalBranches schema row branches with
    | some v => .ok v
    | none => evalElse schema row otherwise
  | call f args => do
    let values ← evalAll schema row args
    f.apply values
  | extension node => (Traced.ofExcept (node.body schema row)).after (.extension node)
termination_by structural e => e

def evalAll (schema : Schema) (row : RowView) : List Expr → Evaluation (List Value)
  | [] => .ok []
  | e :: rest => do
    let v ← eval schema row e
    let values ← evalAll schema row rest
    .ok (v :: values)
termination_by structural es => es

def evalBranches (schema : Schema) (row : RowView) :
    List (Expr × Expr) → Evaluation (Option Value)
  | [] => .ok none
  | (condition, result) :: rest => do
    let v ← eval schema row condition
    if v.isTrue then
      let w ← eval schema row result
      .ok (some w)
    else evalBranches schema row rest
termination_by structural bs => bs

/-- The value where no branch applies: null without an `ELSE`. -/
def evalElse (schema : Schema) (row : RowView) : Option Expr → Evaluation Value
  | none => .ok .null
  | some e => eval schema row e
termination_by structural o => o

end

/-- Whether a condition is true on a row; false and unknown are not. -/
def holds (schema : Schema) (row : RowView) (e : Expr) : Evaluation Bool := do
  let v ← e.eval schema row
  .ok v.isTrue

end Expr

end RowEngine
