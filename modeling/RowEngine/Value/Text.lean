import RowEngine.Date.Text
import RowEngine.Decimal.Layout
import RowEngine.Value.Basic

/-!
# Values as text

The text that casts, messages and printed expressions use. Floats have the fewest digits that read
back and never an exponent; bytes are written as two hexadecimal digits each.
-/

namespace RowEngine

def hexDigits (byte : UInt8) : List Char :=
  [Nat.digitChar (byte.toNat / 16), Nat.digitChar (byte.toNat % 16)]

namespace Value

/-- Whole numbers have no fraction, and of two nearest digit sequences the larger is taken. -/
def plainLayout : Layout := ⟨none, false, false, .up⟩

protected def toString : Value → String
  | null => "NULL"
  | boolean b => if b then "true" else "false"
  | integer n => ToString.toString n.toInt
  | float x => plainLayout.text x
  | text s => s
  | date d => d.text
  | blob bytes => String.ofList (bytes.flatMap hexDigits)

end Value

end RowEngine
