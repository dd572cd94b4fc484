import RowEngine.Binary64.Round
import RowEngine.Decimal.Reader
import RowEngine.Error
import RowEngine.Value.Order
import RowEngine.Value.Text

/-!
# Casts

A cast to the value's own type changes nothing, null casts to null, and every value has a text. All
other conversions are between numbers, between booleans and integers, and from text; whatever has no
value of the target type is refused.
-/

namespace RowEngine.Value

def invalidCast (v : Value) (target : DataType) : EvalError :=
  .invalidCast v.toString target

/-- The integer part of a float that lies between the float bounds of the integers. The upper bound
`2 ^ 63` is itself a float and goes to the largest integer. -/
def integerOf? (x : Binary64) : Option Int64 :=
  if x.isFinite && decide (-(Nat.pow 2 63 : Int) * Binary64.oneUnits ≤ x.units) &&
      decide (x.units ≤ (Nat.pow 2 63 : Int) * Binary64.oneUnits) then
    some (Int64.ofInt (min x.truncate Int64.maxValue.toInt))
  else none

def booleanOf? (s : String) : Option Bool :=
  match String.ofList ((trimBlanks s.toList).map Char.toLower) with
  | "true" | "t" | "1" => some true
  | "false" | "f" | "0" => some false
  | _ => none

/-- A value of the target type read from text, blanks at the ends apart. -/
def ofText? (s : String) : DataType → Option Value
  | .integer => (readInt64? (trimBlanks s.toList)).map integer
  | .float => (Binary64.read? (trimBlanks s.toList)).map float
  | .boolean => (booleanOf? s).map boolean
  | .date => (Date.read? false (trimBlanks s.toList)).map date
  | .blob => some (blob s.toUTF8.toList)
  | .text => some (text s)
  | .null => some null

/-- The value of another type that stands for `v`, if there is one. -/
def convert? (v : Value) (target : DataType) : Option Value :=
  match v, target with
  | _, .null => some null
  | _, .text => some (text v.toString)
  | integer n, .float => some (float (floatOf n))
  | float x, .integer => (integerOf? x).map integer
  | boolean b, .integer => some (integer (if b then 1 else 0))
  | integer n, .boolean => some (boolean (n != 0))
  | text s, _ => ofText? s target
  | _, _ => none

def cast (v : Value) (target : DataType) : Except EvalError Value :=
  if v.type = target ∨ v.isNull then .ok v
  else
    match v.convert? target with
    | some w => .ok w
    | none => .error (v.invalidCast target)

@[simp] theorem cast_null (target : DataType) : null.cast target = .ok null := by
  simp [cast, isNull]

end RowEngine.Value
