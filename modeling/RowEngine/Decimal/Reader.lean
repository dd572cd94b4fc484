import RowEngine.Decimal.Basic
import RowEngine.Text.Digits

/-!
# Reading numbers

An integer is an optional sign and digits. A floating point number is an optional sign and either a
name (`inf`, `infinity` or `nan`, in any mixture of cases) or digits with an optional point among or
around them and an optional exponent. Blanks are not allowed anywhere.
-/

namespace RowEngine

def splitSign : List Char → Bool × List Char
  | '-' :: rest => (true, rest)
  | '+' :: rest => (false, rest)
  | cs => (false, cs)

def int64OfInt? (n : Int) : Option Int64 :=
  if Int64.minValue.toInt ≤ n ∧ n ≤ Int64.maxValue.toInt then some (Int64.ofInt n) else none

def readInt64? (cs : List Char) : Option Int64 :=
  let (negative, digits) := splitSign cs
  if digits.isEmpty || !digits.all Char.isDigit then none
  else
    let n : Int := natOfDigits 10 digits
    int64OfInt? (if negative then -n else n)

/-- The value of exponent digits. It stops growing once it is past every exponent that matters. -/
def readExponent (digits : List Char) : Nat :=
  digits.foldl (fun n c => if n < 0x10000 then 10 * n + digitValue c else n) 0

namespace Decimal

def exponentPart? : List Char → Option Int
  | [] => some 0
  | c :: rest =>
    let (negative, digits) := splitSign rest
    if (c == 'e' || c == 'E') && !digits.isEmpty && digits.all Char.isDigit then
      some (if negative then -(readExponent digits : Int) else readExponent digits)
    else none

/-- Digits, an optional point with digits after it, and an optional exponent. One digit at least
stands before or after the point. -/
def read? (cs : List Char) : Option Decimal :=
  let whole := cs.takeWhile Char.isDigit
  let afterWhole := cs.dropWhile Char.isDigit
  let (places, afterPlaces) :=
    match afterWhole with
    | '.' :: rest => (rest.takeWhile Char.isDigit, rest.dropWhile Char.isDigit)
    | rest => ([], rest)
  if whole.isEmpty && places.isEmpty then none
  else
    (exponentPart? afterPlaces).map fun exponent =>
      ⟨natOfDigits 10 (whole ++ places), exponent - places.length⟩

end Decimal

namespace Binary64

def ofName? (negative : Bool) (cs : List Char) : Option Binary64 :=
  match String.ofList (cs.map Char.toLower) with
  | "inf" => some (infinity negative)
  | "infinity" => some (infinity negative)
  | "nan" => some nan
  | _ => none

def read? (cs : List Char) : Option Binary64 :=
  let (negative, unsigned) := splitSign cs
  match Decimal.read? unsigned with
  | some d => some (d.toBinary64 negative)
  | none => ofName? negative unsigned

end Binary64

end RowEngine
