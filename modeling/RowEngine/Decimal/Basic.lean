import RowEngine.Binary64.Round

/-!
# Decimal numbers and the floating point numbers nearest to them

A decimal is a whole number of digits times a power of ten. `Decimal.toMagnitude` is the one way in
which decimals of any length become floating point numbers.
-/

namespace RowEngine

/-- The number `digits * 10 ^ exponent`. -/
structure Decimal where
  digits : Nat
  exponent : Int
  deriving DecidableEq, Repr

namespace Decimal

/-- The magnitude nearest to a decimal. A decimal of at least `10 ^ 310` is past every finite number
and one below `10 ^ (-330)` is nearer to zero than to one unit; for these no power is computed. -/
def toMagnitude (d : Decimal) : Nat :=
  let size : Int := d.digits.log2
  if d.digits = 0 then 0
  else if 309 < size * 3 / 10 + d.exponent then Binary64.infinityMagnitude
  else if (size + 1) / 3 + 1 + d.exponent < -330 then 0
  else if 0 ≤ d.exponent then
    Binary64.roundUnits (d.digits * Nat.pow 10 d.exponent.toNat * Binary64.oneUnits) 1
  else Binary64.roundUnits (d.digits * Binary64.oneUnits) (Nat.pow 10 (-d.exponent).toNat)

def toBinary64 (negative : Bool) (d : Decimal) : Binary64 :=
  .ofMagnitude negative d.toMagnitude

end Decimal

end RowEngine
