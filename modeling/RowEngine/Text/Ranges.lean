/-!
# Tables over character codes

Properties of characters are lists of ranges of codes, and maps between characters are lists of
ranges that share one distance to their images.
-/

namespace RowEngine

/-- Whether a code lies in one of the ranges; both ends belong to a range. -/
def inRanges (ranges : List (Nat × Nat)) (n : Nat) : Bool :=
  ranges.any fun (low, high) => decide (low ≤ n) && decide (n ≤ high)

/-- The codes from `low` to `high` in steps of `step`, each with its image `shift` further on. -/
structure ShiftRange where
  low : Nat
  high : Nat
  step : Nat
  shift : Int

def ShiftRange.contains (r : ShiftRange) (n : Nat) : Bool :=
  decide (r.low ≤ n) && decide (n ≤ r.high) && (n - r.low) % r.step == 0

/-- The image of a code, which is the code itself where no range holds it. -/
def shiftedCode (table : List ShiftRange) (n : Nat) : Nat :=
  match table.find? (·.contains n) with
  | some r => (n + r.shift).toNat
  | none => n

/-- The code whose image in the range is `n`. -/
def ShiftRange.source? (r : ShiftRange) (n : Nat) : Option Nat :=
  let source := (n : Int) - r.shift
  if 0 ≤ source ∧ r.contains source.toNat then some source.toNat else none

/-- The other codes whose image is `n`. -/
def codesShiftedTo (table : List ShiftRange) (n : Nat) : List Nat := table.filterMap (·.source? n)

end RowEngine
