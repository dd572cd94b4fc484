import RowEngine.Binary64.Arith
import RowEngine.Decimal.Reader
import RowEngine.Json.Basic

/-!
# Numbers in JSON

A literal without point and exponent is an integer if 64 bits hold it, unsigned or, after a minus
sign, signed; minus zero is no integer. Every other literal is a float, computed from the digits
that 64 bits can hold and one multiplication or division by a power of ten, so its last digits may
differ from those of the nearest float. A literal past the largest float has no value.
-/

namespace RowEngine.Json.Number

def maxSignificand : Nat := Nat.pow 2 64 - 1

/-- Takes digits for as long as 64 bits hold the number. -/
def absorb (n : Nat) : List Char → Nat × List Char
  | [] => (n, [])
  | c :: rest =>
    let m := 10 * n + digitValue c
    if m ≤ maxSignificand then absorb m rest else (n, c :: rest)

def power (n : Nat) : Binary64 := Decimal.toBinary64 false ⟨1, n⟩

/-- Divides by a power of ten, in steps when the power is past the largest float. -/
def divideOut (x : Binary64) (n : Nat) : Binary64 :=
  if n ≤ 308 then x.div (power n)
  else if x.isZero then x
  else divideOut (x.div (power 308)) (n - 308)
termination_by n

def scale? (x : Binary64) (exponent : Int) : Option Binary64 :=
  if exponent < 0 then some (divideOut x (-exponent).toNat)
  else if exponent ≤ 308 then
    let y := x.mul (power exponent.toNat)
    if y.isInfinite then none else some y
  else if x.isZero then some x
  else none

def integer? (n : Number) : Option Int :=
  match n.places, n.exponent, absorb 0 n.whole with
  | none, none, (m, []) =>
    if n.negative then
      if m = 0 ∨ Nat.pow 2 63 < m then none else some (-(m : Int))
    else some m
  | _, _, _ => none

def float? (n : Number) : Option Binary64 :=
  match n.integer? with
  | some i => some (.ofInt i)
  | none =>
    let (significand, dropped) := absorb 0 n.whole
    let places := n.places.getD []
    let (significand, unused) := absorb significand places
    let shift : Int := dropped.length - (places.length - unused.length : Nat)
    let exponent : Int := match n.exponent with
      | some (negative, digits) =>
        if negative then -(natOfDigits 10 digits : Int) else natOfDigits 10 digits
      | none => 0
    let sign (x : Binary64) : Binary64 := if n.negative then x.neg else x
    (scale? (.ofInt significand) (shift + exponent)).map sign

end RowEngine.Json.Number
