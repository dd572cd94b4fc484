import RowEngine.Expr.Operator
import RowEngine.Function.Basic
import RowEngine.Regex.Basic
import RowEngine.Row
import RowEngine.Schema

/-!
# Expressions

An expression is a tree over the columns of a schema. Types are settled when the tree is built, so
each node tells its type without looking at rows. A row constant has no value of its own; it is the
list of `IN`.
-/

namespace RowEngine

/-- A node of some other origin: a type and a body that reads the row. -/
structure Extension where
  /-- Tells extensions of one name apart. -/
  tag : Nat
  name : String
  type : DataType
  body : Schema → RowView → Except EvalError Value

inductive Expr where
  | column (id : Nat) (type : DataType) (name : String)
  | const (value : Value)
  | rowConst (values : List Value)
  | unary (op : UnaryOp) (arg : Expr)
  | binary (op : BinaryOp) (left right : Expr) (type : DataType)
  | isNull (arg : Expr) (negated : Bool)
  | between (arg low high : Expr) (negated : Bool)
  | inList (arg list : Expr) (negated : Bool)
  | like (arg : Expr) (pattern : String) (regex : Regex) (negated : Bool)
  | cast (arg : Expr) (target : DataType)
  | caseWhen (branches : List (Expr × Expr)) (otherwise : Option Expr) (type : DataType)
  | call (function : ScalarFunction) (args : List Expr)
  | extension (node : Extension)

namespace Expr

/-- The type of a list of values: that of the first that is not null. -/
def listType (values : List Value) : DataType :=
  ((values.map Value.type).find? (· != .null)).getD .null

def type : Expr → DataType
  | column _ type _ => type
  | const v => v.type
  | rowConst values => listType values
  | unary .not _ => .boolean
  | unary .negate arg => arg.type
  | binary _ _ _ type => type
  | isNull _ _ | between _ _ _ _ | inList _ _ _ | like _ _ _ _ => .boolean
  | cast _ target => target
  | caseWhen _ _ type => type
  | call f _ => f.returns
  | extension node => node.type

def children : Expr → List Expr
  | column _ _ _ | const _ | rowConst _ | extension _ => []
  | unary _ arg | isNull arg _ | cast arg _ | like arg _ _ _ => [arg]
  | binary _ left right _ => [left, right]
  | between arg low high _ => [arg, low, high]
  | inList arg list _ => [arg, list]
  | caseWhen branches otherwise _ =>
    branches.flatMap (fun (condition, result) => [condition, result]) ++ otherwise.toList
  | call _ args => args

def isRowConst : Expr → Bool
  | rowConst _ => true
  | _ => false

end Expr

end RowEngine
