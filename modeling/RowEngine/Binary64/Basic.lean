/-!
# Floating point numbers of 64 bits

A number is held as its bits: a sign, eleven bits of exponent and fifty-two bits of fraction. Every
finite magnitude is a whole number of units, a unit being the least positive number `2 ^ (-1074)`,
so values are compared and combined as whole numbers and no rounding happens before the last step.
-/

namespace RowEngine

structure Binary64 where
  bits : UInt64
  deriving DecidableEq, Hashable

namespace Binary64

/-- The bits below the sign. They are in the order of the magnitudes they stand for. -/
def magnitude (x : Binary64) : Nat := x.bits.toNat % Nat.pow 2 63

def negative (x : Binary64) : Bool := decide (Nat.pow 2 63 ≤ x.bits.toNat)

def ofMagnitude (negative : Bool) (m : Nat) : Binary64 :=
  ⟨UInt64.ofNat (if negative then Nat.pow 2 63 + m else m)⟩

/-- The magnitude of both infinities. A larger one belongs to no number. -/
def infinityMagnitude : Nat := 2047 * Nat.pow 2 52

def zero : Binary64 := ⟨0⟩

def nan : Binary64 := ⟨0x7ff8000000000000⟩

def infinity (negative : Bool) : Binary64 := ofMagnitude negative infinityMagnitude

def isNaN (x : Binary64) : Bool := decide (infinityMagnitude < x.magnitude)

def isInfinite (x : Binary64) : Bool := x.magnitude == infinityMagnitude

def isFinite (x : Binary64) : Bool := decide (x.magnitude < infinityMagnitude)

def isZero (x : Binary64) : Bool := x.magnitude == 0

/-- The units of a finite magnitude: below `2 ^ 52` the fraction alone, above it the fraction with
its leading one, doubled for each step of the exponent after the first. -/
def unitsOf (m : Nat) : Nat :=
  if m < Nat.pow 2 52 then m
  else (Nat.pow 2 52 + m % Nat.pow 2 52) * Nat.pow 2 (m / Nat.pow 2 52 - 1)

def oneUnits : Nat := Nat.pow 2 1074

def units (x : Binary64) : Int :=
  if x.negative then -(unitsOf x.magnitude : Int) else unitsOf x.magnitude

def neg (x : Binary64) : Binary64 := ofMagnitude (!x.negative) x.magnitude

def abs (x : Binary64) : Binary64 := ofMagnitude false x.magnitude

@[simp] theorem magnitude_zero : zero.magnitude = 0 := rfl
@[simp] theorem negative_zero : zero.negative = false := rfl

end Binary64

end RowEngine
