import RowEngine.Date.Basic
import RowEngine.Text.Blank
import RowEngine.Text.Digits

/-!
# Dates as text

A date is written `year-month-day` with two digits for month and day. Years from 0 to 9999 have four
digits; a later year has a plus sign in front, an earlier one a minus sign and at least four digits.
-/

namespace RowEngine

def paddedDigits (width n : Nat) : List Char :=
  let digits := Nat.toDigits 10 n
  List.replicate (width - digits.length) '0' ++ digits

namespace Date

def yearText (year : Int) : List Char :=
  if year < 0 then '-' :: paddedDigits 4 year.natAbs
  else if year ≤ 9999 then paddedDigits 4 year.natAbs
  else '+' :: paddedDigits 4 year.natAbs

def text (d : Date) : String :=
  String.ofList
    (yearText d.year ++ '-' :: paddedDigits 2 d.month ++ '-' :: paddedDigits 2 d.day)

/-- At least one digit and at most `most` of them (any number for `none`), and what follows. -/
def digitRun? (most : Option Nat) (cs : List Char) : Option (Nat × List Char) :=
  let run := cs.takeWhile Char.isDigit
  let digits := match most with
    | some n => run.take n
    | none => run
  if digits.isEmpty then none else some (natOfDigits 10 digits, cs.drop digits.length)

/-- A year: four digits at most, or a sign and any number of digits. -/
def readYear? : List Char → Option (Int × List Char)
  | '-' :: rest => (digitRun? none rest).map fun (n, after) => (-(n : Int), after)
  | '+' :: rest => (digitRun? none rest).map fun (n, after) => ((n : Int), after)
  | cs => (digitRun? (some 4) cs).map fun (n, after) => ((n : Int), after)

def dash? : List Char → Option (List Char)
  | '-' :: rest => some rest
  | _ => none

/-- Reads a date. Blanks may stand before each of the three numbers, and where `loose` is set also
before the dashes and at the end. -/
def read? (loose : Bool) (cs : List Char) : Option Date := do
  let gap (cs : List Char) := if loose then trimStart cs else cs
  let (year, cs) ← readYear? (trimStart cs)
  let cs ← dash? (gap cs)
  let (month, cs) ← digitRun? (some 2) (trimStart cs)
  let cs ← dash? (gap cs)
  let (day, cs) ← digitRun? (some 2) (trimStart cs)
  if (gap cs).isEmpty then of? year month day else none

end Date

end RowEngine
