import RowEngine.DataType

/-!
# Errors

`EvalError` holds the causes for which an expression fails on a row, `Failure` everything that can
go wrong when something is built, loaded or run. Each cause carries what its message names, and
`message` is the one place where the wording is.
-/

namespace RowEngine

inductive EvalError where
  | arithmeticOverflow (op : String)
  | divisionByZero
  | functionFailed (name reason : String)
  | columnOutOfBounds (column width : Nat)
  | invalidCast (source : String) (target : DataType)
  | invalidOperands (op : String) (left right : DataType)
  | notScalar (kind : String)
  | extension (reason : String)
  deriving DecidableEq, Repr

namespace EvalError

def message : EvalError → String
  | arithmeticOverflow op => s!"Arithmetic overflow in '{op}'"
  | divisionByZero => "Division by zero"
  | functionFailed name reason => s!"Function '{name}' failed: {reason}"
  | columnOutOfBounds column width =>
    s!"Column id {column} is out of bounds for tuple width {width}"
  | invalidCast source target => s!"Cannot cast {source} to {target.name}"
  | invalidOperands op left right =>
    s!"Operator '{op}' cannot be applied to {left.name} and {right.name}"
  | notScalar kind => s!"Expression '{kind}' does not produce a scalar value"
  | extension reason => s!"Extension expression failed: {reason}"

end EvalError

inductive MissingColumn where
  | named (name : String)
  | position (column count : Nat)
  | outsideJoin (name : String) (column width : Nat)
  deriving DecidableEq, Repr

namespace MissingColumn

def message : MissingColumn → String
  | named name => name
  | position column count => s!"column id {column} (schema has {count} columns)"
  | outsideJoin name column width =>
    s!"{name} (column id {column}, join input has {width} columns)"

end MissingColumn

inductive BadJoinKey where
  | notEquality (qual : String)
  | noEquality
  | typesDiffer (left : String) (leftType : DataType) (right : String) (rightType : DataType)
  deriving DecidableEq, Repr

namespace BadJoinKey

def message : BadJoinKey → String
  | notEquality qual => s!"'{qual}' is not an equality between a left and a right column"
  | noEquality => "join condition has no equality between a left and a right column"
  | typesDiffer left leftType right rightType =>
    s!"key types differ: {left} is {leftType.name}, {right} is {rightType.name}"

end BadJoinKey

inductive BadExpression where
  | rowConstant (context : String)
  | listExpected
  | noBranch
  | badPattern (pattern reason : String)
  | noSortKey
  | noTarget
  deriving DecidableEq, Repr

namespace BadExpression

def message : BadExpression → String
  | rowConstant context =>
    s!"row constant is only allowed as the list of IN, found in {context}"
  | listExpected => "IN expects a row constant as its list"
  | noBranch => "CASE needs at least one WHEN"
  | badPattern pattern reason => s!"bad LIKE pattern '{pattern}': {reason}"
  | noSortKey => "sort needs at least one key"
  | noTarget => "projection needs at least one target"

end BadExpression

inductive BadSettings where
  | zeroSortBuffer
  | zeroHashTable
  | unreadable
  deriving DecidableEq, Repr

namespace BadSettings

def message : BadSettings → String
  | zeroSortBuffer => "sort_buffer_capacity must be greater than 0"
  | zeroHashTable => "hash_table_capacity must be greater than 0"
  | unreadable => "Failed to parse config file"

end BadSettings

inductive Failure where
  | columnNotFound (column : MissingColumn)
  | ambiguousColumn (name : String)
  | typeMismatch (expected found context : String)
  | functionNotFound (signature : String)
  | invalidJoinKeys (cause : BadJoinKey)
  | invalidExpression (cause : BadExpression)
  | evaluation (cause : EvalError)
  | io (reason : String)
  | configuration (cause : BadSettings)
  | internal (reason : String)
  deriving DecidableEq, Repr

namespace Failure

def message : Failure → String
  | columnNotFound column => s!"Column not found: {column.message}"
  | ambiguousColumn name => s!"Ambiguous column reference: {name}"
  | typeMismatch expected found context =>
    s!"Type mismatch in {context}: expected {expected}, found {found}"
  | functionNotFound signature => s!"No function matches signature {signature}"
  | invalidJoinKeys cause => s!"Invalid join keys: {cause.message}"
  | invalidExpression cause => s!"Invalid expression: {cause.message}"
  | evaluation cause => s!"Evaluation error: {cause.message}"
  | io reason => s!"IO Error: {reason}"
  | configuration cause => s!"Configuration error: {cause.message}"
  | internal reason => s!"Internal Error: {reason}"

/-- The failures that belong to building something, not to running it. -/
def isConstruction : Failure → Bool
  | columnNotFound _ | ambiguousColumn _ | typeMismatch _ _ _ | functionNotFound _
  | invalidJoinKeys _ | invalidExpression _ => true
  | _ => false

end Failure

end RowEngine
