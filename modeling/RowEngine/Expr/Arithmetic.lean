import RowEngine.Binary64.Arith
import RowEngine.Decimal.Reader
import RowEngine.Error
import RowEngine.Expr.Operator
import RowEngine.Value.Order

/-!
# Arithmetic on values

Over two integers the result is the exact integer or an overflow; division drops the fraction. As
soon as one operand is a float, both are. A null operand makes the result null, and a zero divisor
is an error for both kinds of number.
-/

namespace RowEngine.Value

def float? : Value → Option Binary64
  | integer n => some (floatOf n)
  | float x => some x
  | _ => none

def invalidOperands (op : BinaryOp) (a b : Value) : EvalError :=
  .invalidOperands op.symbol a.type b.type

/-- An exact result as an integer of 64 bits. -/
def exactInteger (op : BinaryOp) (n : Int) : Except EvalError Value :=
  match int64OfInt? n with
  | some i => .ok (integer i)
  | none => .error (.arithmeticOverflow op.symbol)

/-- The remainder of the least integer by `-1` overflows together with the quotient. -/
def integerArithmetic (op : BinaryOp) (a b : Int64) : Except EvalError Value :=
  let x := a.toInt
  let y := b.toInt
  match op with
  | .plus => exactInteger op (x + y)
  | .minus => exactInteger op (x - y)
  | .times => exactInteger op (x * y)
  | .divide => if y = 0 then .error .divisionByZero else exactInteger op (x.tdiv y)
  | .modulo =>
    if y = 0 then .error .divisionByZero
    else (exactInteger op (x.tdiv y)).bind fun _ => exactInteger op (x.tmod y)
  | _ => .error (invalidOperands op (integer a) (integer b))

def floatArithmetic (op : BinaryOp) (left right : Value) (a b : Binary64) :
    Except EvalError Value :=
  match op with
  | .plus => .ok (float (a.add b))
  | .minus => .ok (float (a.sub b))
  | .times => .ok (float (a.mul b))
  | .divide => if b.isZero then .error .divisionByZero else .ok (float (a.div b))
  | .modulo => if b.isZero then .error .divisionByZero else .ok (float (a.rem b))
  | _ => .error (invalidOperands op left right)

def arithmetic (op : BinaryOp) (left right : Value) : Except EvalError Value :=
  if left.isNull || right.isNull then .ok null
  else
    match left, right with
    | integer a, integer b => integerArithmetic op a b
    | _, _ =>
      match left.float?, right.float? with
      | some a, some b => floatArithmetic op left right a b
      | _, _ => .error (invalidOperands op left right)

def negate : Value → Except EvalError Value
  | null => .ok null
  | integer n =>
    if n = Int64.minValue then .error (.arithmeticOverflow "-") else .ok (integer (-n))
  | float x => .ok (float x.neg)
  | v => .error (.invalidOperands UnaryOp.negate.name v.type .null)

def negation : Value → Except EvalError Value
  | null => .ok null
  | boolean b => .ok (boolean (!b))
  | v => .error (.invalidOperands UnaryOp.not.name v.type .null)

end RowEngine.Value
