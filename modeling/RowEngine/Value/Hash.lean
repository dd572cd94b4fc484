import RowEngine.Value.Basic

/-!
# What values feed to a hash

A hash map looks for a key only among the keys with its hash, and a hash is made of the data that a
value feeds to it: its kind, then its content. A float feeds the bits of its representative.
-/

namespace RowEngine

/-- A piece of data for a hash. What a date makes of itself is left to dates. -/
inductive HashInput where
  | kind (place : Nat)
  | boolean (b : Bool)
  | integer (n : Int64)
  | bits (word : UInt64)
  | text (s : String)
  | date (d : Date)
  | length (n : Nat)
  | bytes (content : List UInt8)
  deriving DecidableEq

namespace Value

def kindPlace : Value → Nat
  | null => 0
  | boolean _ => 1
  | integer _ => 2
  | float _ => 3
  | text _ => 4
  | date _ => 5
  | blob _ => 6

def feedContent : Value → List HashInput
  | null => []
  | boolean b => [.boolean b]
  | integer n => [.integer n]
  | float x => [.bits x.canon.bits]
  | text s => [.text s]
  | date d => [.date d]
  | blob content => [.length content.length, .bytes content]

def feed (v : Value) : List HashInput := .kind v.kindPlace :: v.feedContent

end Value

/-- A key feeds its length, then its values one after the other. -/
def feedKey (key : List Value) : List HashInput :=
  .length key.length :: key.flatMap Value.feed

end RowEngine
