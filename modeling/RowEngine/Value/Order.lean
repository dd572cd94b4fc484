import RowEngine.Binary64.Round
import RowEngine.Value.Basic

/-!
# The order of values

Values of one type have the order of their contents: false before true, numbers by size, texts by
code points, dates by the calendar, byte strings byte by byte. An integer meets a float as the float
nearest to it. Values of types that do not mix are ordered by type, and null comes last.
-/

namespace RowEngine.Value

/-- The place of a type among types that do not mix. -/
def typeRank : Value → Nat
  | boolean _ => 0
  | integer _ | float _ => 1
  | text _ => 2
  | date _ => 3
  | blob _ => 4
  | null => 5

def floatOf (n : Int64) : Binary64 := .ofInt n.toInt

protected def compare : Value → Value → Ordering
  | null, null => .eq
  | boolean a, boolean b => Ord.compare a b
  | integer a, integer b => Ord.compare a.toInt b.toInt
  | float a, float b => a.compare b
  | integer a, float b => (floatOf a).compare b
  | float a, integer b => a.compare (floatOf b)
  | text a, text b => Ord.compare a b
  | date a, date b => a.compare b
  | blob a, blob b => Ord.compare a b
  | a, b => Ord.compare a.typeRank b.typeRank

end RowEngine.Value
