/-!
# Data types

The types of columns and of expression results. `null` is the type of an expression that is always
null; it goes with every other type.
-/

namespace RowEngine

inductive DataType where
  | null
  | boolean
  | integer
  | float
  | text
  | date
  | blob
  deriving DecidableEq, Repr

namespace DataType

def all : List DataType := [null, boolean, integer, float, text, date, blob]

def name : DataType → String
  | null => "Null"
  | boolean => "Boolean"
  | integer => "Integer"
  | float => "Float"
  | text => "Text"
  | date => "Date"
  | blob => "Blob"

def isNumeric : DataType → Bool
  | integer | float => true
  | _ => false

def isOperand (t : DataType) : Bool := t.isNumeric || t == null

/-- Conditions are boolean or null. -/
def isCondition (t : DataType) : Bool := t == boolean || t == null

/-- Values of the two types can be ordered against each other without a cast. -/
def comparable (a b : DataType) : Bool :=
  a == b || a == null || b == null || (a.isNumeric && b.isNumeric)

/-- The type of an arithmetic operation: integer over integers and nulls with at least one integer,
float otherwise. -/
def arithmetic : DataType → DataType → DataType
  | integer, integer | null, integer | integer, null => integer
  | _, _ => float

/-- An argument of type `actual` can be passed to a parameter declared as `declared`: integers widen
to floats, a null fits any parameter. -/
def accepts (declared actual : DataType) : Bool :=
  declared == actual || actual == null || (declared == float && actual == integer)

end DataType

end RowEngine
