import RowEngine.Binary64.Round

/-!
# Arithmetic

Each operation computes its exact result in units and rounds once. A result that is not a number is
always the one `nan`. A product or quotient is negative when exactly one operand is.
-/

namespace RowEngine

/-- The largest whole number whose square is at most `n`. -/
def floorSqrt (n : Nat) : Nat :=
  if n = 0 then 0
  else
    let r := 2 * floorSqrt (n / 4)
    if (r + 1) * (r + 1) ≤ n then r + 1 else r
termination_by n

namespace Binary64

/-- An exact sum of zero is negative only if both terms are. -/
def add (x y : Binary64) : Binary64 :=
  if x.isNaN || y.isNaN then nan
  else if x.isInfinite then
    if y.isInfinite && x.negative != y.negative then nan else x
  else if y.isInfinite then y
  else ofUnits (x.negative && y.negative) (x.units + y.units)

def sub (x y : Binary64) : Binary64 := add x y.neg

def mul (x y : Binary64) : Binary64 :=
  let sign := x.negative != y.negative
  if x.isNaN || y.isNaN then nan
  else if x.isInfinite || y.isInfinite then
    if x.isZero || y.isZero then nan else infinity sign
  else ofMagnitude sign (roundUnits (x.units.natAbs * y.units.natAbs) oneUnits)

def div (x y : Binary64) : Binary64 :=
  let sign := x.negative != y.negative
  if x.isNaN || y.isNaN || (x.isInfinite && y.isInfinite) || (x.isZero && y.isZero) then nan
  else if x.isInfinite || y.isZero then infinity sign
  else if y.isInfinite then ofMagnitude sign 0
  else ofMagnitude sign (roundUnits (x.units.natAbs * oneUnits) y.units.natAbs)

/-- The remainder of a quotient truncated toward zero. It is exact and has the sign of `x`. -/
def rem (x y : Binary64) : Binary64 :=
  if x.isNaN || y.isNaN || x.isInfinite || y.isZero then nan
  else if y.isInfinite then x
  else ofMagnitude x.negative (roundUnits (x.units.natAbs % y.units.natAbs) 1)

/-- The square root. The root of `n` units is the root of `n * oneUnits`, in units. Its whole part
has over five hundred bits, so where it is not exact one more binary place, set to one, rounds the
same. -/
def sqrt (x : Binary64) : Binary64 :=
  if x.isNaN then nan
  else if x.isZero then x
  else if x.negative then nan
  else if x.isInfinite then x
  else
    let square := x.units.natAbs * oneUnits
    let root := floorSqrt square
    ofMagnitude false (roundUnits (if root * root = square then 2 * root else 2 * root + 1) 2)

/-- The nearest whole number, a half going away from zero; the sign is kept, also of a zero. -/
def round (x : Binary64) : Binary64 :=
  if x.isFinite then
    let whole := (2 * x.units.natAbs + oneUnits) / (2 * oneUnits)
    ofMagnitude x.negative (roundUnits (whole * oneUnits) 1)
  else x

end Binary64

end RowEngine
