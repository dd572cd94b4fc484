import RowEngine.Binary64.Basic

/-!
# Order and identity of floating point numbers

For keys and for sorting, the two zeros are one number and so are all values that are not numbers;
the latter come after everything else. `canon` picks the representative and `rank` puts the
representatives in line.
-/

namespace RowEngine.Binary64

/-- The representative of a number: `0` for both zeros, `nan` for all that is not a number. -/
def canon (x : Binary64) : Binary64 :=
  if x.isZero then zero else if x.isNaN then nan else x

/-- The place of a number in the order. -/
def rank (x : Binary64) : Int :=
  if x.canon.negative then -(x.canon.magnitude : Int) else x.canon.magnitude

protected def compare (x y : Binary64) : Ordering := Ord.compare x.rank y.rank

end RowEngine.Binary64
