import RowEngine.Decimal.Basic

/-!
# The shortest decimal that reads back

Of all decimals whose nearest floating point number is the given one, `Decimal.shortest` takes one
with the fewest digits, and of those the nearest. On the grid of decimals with a fixed number of
digits only the two neighbours of the number can be nearest, so these are the candidates; seventeen
digits always suffice.
-/

namespace RowEngine

/-- Which of two neighbours at the same distance is taken. -/
inductive Tie where
  | up
  | even
  deriving DecidableEq, Repr

namespace Decimal

/-- The exponent `p` with `10 ^ (p - 1) ≤ num / den < 10 ^ p` for `num / den` units of a number
in the floating point range. The binary logarithm fixes it up to one. -/
def pointOf (units : Nat) : Int :=
  let estimate : Int := ((units.log2 : Int) - 1074) * 30103 / 100000
  let next := estimate + 1
  let reached :=
    if 0 ≤ next then decide (Binary64.oneUnits * Nat.pow 10 next.toNat ≤ units)
    else decide (Binary64.oneUnits ≤ units * Nat.pow 10 (-next).toNat)
  if reached then next + 1 else next

/-- The neighbour, on the grid of multiples of `10 ^ exponent`, that reads back as magnitude `m`. -/
def onGrid (tie : Tie) (m : Nat) (exponent : Int) : Option Decimal :=
  let units := Binary64.unitsOf m
  let num := if 0 ≤ exponent then units else units * Nat.pow 10 (-exponent).toNat
  let den :=
    if 0 ≤ exponent then Binary64.oneUnits * Nat.pow 10 exponent.toNat else Binary64.oneUnits
  let low : Decimal := ⟨num / den, exponent⟩
  let high : Decimal := ⟨num / den + 1, exponent⟩
  let rest := 2 * (num % den)
  let preferLow :=
    rest < den || (rest == den && tie == .even && low.digits % 2 == 0)
  let lowReads := low.toMagnitude == m
  let highReads := high.toMagnitude == m
  if lowReads && (preferLow || !highReads) then some low
  else if highReads then some high
  else none

/-- Drops zeros at the end of the digits. -/
def trim : Nat → Decimal → Decimal
  | 0, d => d
  | steps + 1, d =>
    if d.digits % 10 = 0 then trim steps ⟨d.digits / 10, d.exponent + 1⟩ else d

/-- The shortest decimal that reads back as `m`, a finite magnitude other than zero. -/
def shortest (tie : Tie) (m : Nat) : Decimal :=
  let point := pointOf (Binary64.unitsOf m)
  let grids := (List.range 17).map fun (n : Nat) => point - (n + 1)
  match grids.findSome? (onGrid tie m) with
  | some d => trim 17 d
  | none => ⟨Binary64.unitsOf m, 0⟩

end Decimal

end RowEngine
