import RowEngine.Binary64.Order
import RowEngine.DataType
import RowEngine.Date.Basic

/-!
# Values

A value is null or a datum of one of six types. Two values are the same when they have one type and
one content, where a float counts by its representative: `-0.0` and `0.0` are the same, and so are
all values that are not numbers. An integer is never the same as a float.
-/

namespace RowEngine

inductive Value where
  | null
  | boolean (b : Bool)
  | integer (n : Int64)
  | float (x : Binary64)
  | text (s : String)
  | date (d : Date)
  | blob (bytes : List UInt8)
  deriving DecidableEq

namespace Value

def type : Value → DataType
  | null => .null
  | boolean _ => .boolean
  | integer _ => .integer
  | float _ => .float
  | text _ => .text
  | date _ => .date
  | blob _ => .blob

def isNull : Value → Bool
  | null => true
  | _ => false

/-- Only the boolean true is true; null is not. -/
def isTrue : Value → Bool
  | boolean b => b
  | _ => false

/-- The representative of a value among those that are the same. -/
def canon : Value → Value
  | float x => float x.canon
  | v => v

def same (a b : Value) : Bool := decide (a.canon = b.canon)

def size : Value → Nat
  | null => 0
  | boolean _ => 1
  | date _ => 4
  | integer _ | float _ => 8
  | text s => s.utf8ByteSize
  | blob bytes => bytes.length

@[simp] theorem type_canon (v : Value) : v.canon.type = v.type := by cases v <;> rfl
@[simp] theorem isNull_canon (v : Value) : v.canon.isNull = v.isNull := by cases v <;> rfl

end Value

end RowEngine
