import RowEngine.Decimal.Shortest

/-!
# Floating point numbers as text

The digits are the shortest that read back. A `Layout` says how they are set out: where positional
notation ends, whether whole numbers keep a fraction, and how an exponent is signed.
-/

namespace RowEngine

structure Layout where
  /-- The places of the decimal point for which no exponent is written; `none` means every place.
  The point of `0.1` has place 0 and that of `1` has place 1. -/
  positional : Option (Int × Int)
  /-- Whole numbers are written with `.0` when no exponent follows. -/
  fraction : Bool
  /-- An exponent that is not negative has a plus sign. -/
  plus : Bool
  tie : Tie

namespace Layout

def isPositional (l : Layout) (point : Int) : Bool :=
  match l.positional with
  | none => true
  | some (low, high) => decide (low ≤ point) && decide (point ≤ high)

/-- Digits with the point after the first `point` of them, filled up with zeros on either side. -/
def setOut (l : Layout) (digits : List Char) (point : Int) : List Char :=
  if (digits.length : Int) ≤ point then
    digits ++ List.replicate (point.toNat - digits.length) '0' ++
      if l.fraction then ['.', '0'] else []
  else if 0 < point then
    digits.take point.toNat ++ '.' :: digits.drop point.toNat
  else '0' :: '.' :: (List.replicate (-point).toNat '0' ++ digits)

def exponentText (l : Layout) (exponent : Int) : List Char :=
  (if l.plus && decide (0 ≤ exponent) then ['+'] else []) ++ (toString exponent).toList

def withExponent (l : Layout) (digits : List Char) (point : Int) : List Char :=
  let tail := digits.drop 1
  digits.take 1 ++ (if tail.isEmpty then [] else '.' :: tail) ++
    'e' :: l.exponentText (point - 1)

def decimalText (l : Layout) (d : Decimal) : List Char :=
  let digits := Nat.toDigits 10 d.digits
  let point := digits.length + d.exponent
  if l.isPositional point then l.setOut digits point else l.withExponent digits point

def magnitudeText (l : Layout) (m : Nat) : List Char :=
  if m = 0 then l.setOut ['0'] 1 else l.decimalText (Decimal.shortest l.tie m)

/-- The text of a number. Infinities are `inf` and `-inf`; what is not a number is `NaN`. -/
def text (l : Layout) (x : Binary64) : String :=
  if x.isNaN then "NaN"
  else
    let unsigned := if x.isInfinite then "inf".toList else l.magnitudeText x.magnitude
    String.ofList (if x.negative then '-' :: unsigned else unsigned)

end Layout

end RowEngine
