import RowEngine.Binary64.Basic

/-!
# Rounding to the nearest number

An exact result is a quotient of two whole numbers of units. It goes to the nearest floating point
number, and halfway between two of them to the one whose last bit is zero. Past the largest finite
number it goes to infinity.
-/

namespace RowEngine

/-- The quotient as the nearest whole number, a half going to the even neighbour. -/
def divHalfEven (num den : Nat) : Nat :=
  let q := num / den
  let r := num % den
  if 2 * r < den then q else if den < 2 * r then q + 1 else q + q % 2

namespace Binary64

/-- The magnitude nearest to `num / den` units. Fifty-three leading bits are kept; when rounding
carries into a fifty-fourth, the sum below moves on to the next exponent by itself. -/
def roundUnits (num den : Nat) : Nat :=
  let dropped := (num / den).log2 - 52
  min (dropped * Nat.pow 2 52 + divHalfEven num (den * Nat.pow 2 dropped)) infinityMagnitude

/-- The number nearest to a whole number of units; `zeroSign` is the sign of an exact zero. -/
def ofUnits (zeroSign : Bool) (n : Int) : Binary64 :=
  if n = 0 then ofMagnitude zeroSign 0
  else ofMagnitude (decide (n < 0)) (roundUnits n.natAbs 1)

def ofInt (n : Int) : Binary64 := ofUnits false (n * oneUnits)

def truncate (x : Binary64) : Int := x.units.tdiv oneUnits

end Binary64

end RowEngine
