import RowEngine.Expr.Basic
import RowEngine.Function.Registry
import RowEngine.Like.Pattern

/-!
# Building expressions

Each constructor checks the types of its parts and refuses what could not be evaluated on any row.
Types are checked first, left to right; then it is checked that no part is a row constant.
-/

namespace RowEngine.Expr

/-- A row constant has no value and may only be the list of `IN`. -/
def asScalar (context : String) (e : Expr) : Except Failure Expr :=
  if e.isRowConst then .error (.invalidExpression (.rowConstant context)) else .ok e

def mismatch (expected : String) (found : DataType) (context : String) : Failure :=
  .typeMismatch expected found.name context

def asCondition (context : String) (e : Expr) : Except Failure Expr :=
  if e.type.isCondition then asScalar context e
  else .error (mismatch DataType.boolean.name e.type context)

def checkOperand (context : String) (e : Expr) : Except Failure Unit :=
  if e.type.isOperand then .ok () else .error (mismatch "numeric" e.type context)

def checkComparable (context : String) (a b : DataType) : Except Failure Unit :=
  if a.comparable b then .ok () else .error (mismatch a.name b context)

def columnAt (schema : Schema) (i : Nat) : Except Failure Expr :=
  match schema.column? i with
  | some c => .ok (column i c.type c.name)
  | none => .error (.columnNotFound (.position i schema.size))

def columnNamed (schema : Schema) (name : String) : Except Failure Expr := do
  columnAt schema (← schema.resolve name)

def not (e : Expr) : Except Failure Expr := do
  return unary .not (← asCondition "NOT" e)

def negate (e : Expr) : Except Failure Expr := do
  checkOperand "unary minus" e
  return unary .negate (← asScalar "unary minus" e)

def binaryOf (op : BinaryOp) (left right : Expr) : Except Failure Expr := do
  let context := s!"operator {op.symbol}"
  if op.isLogical then
    return binary op (← asCondition context left) (← asCondition context right) .boolean
  else if op.isArithmetic then
    checkOperand context left
    checkOperand context right
    return binary op (← asScalar context left) (← asScalar context right)
      (left.type.arithmetic right.type)
  else
    checkComparable context left.type right.type
    return binary op (← asScalar context left) (← asScalar context right) .boolean

def and (left right : Expr) : Except Failure Expr := binaryOf .and left right

def isNullOf (e : Expr) (negated : Bool) : Except Failure Expr := do
  return isNull (← asScalar "IS NULL" e) negated

def betweenOf (e low high : Expr) (negated : Bool) : Except Failure Expr := do
  checkComparable "BETWEEN" e.type low.type
  checkComparable "BETWEEN" e.type high.type
  let value ← asScalar "BETWEEN" e
  return between value (← asScalar "BETWEEN" low) (← asScalar "BETWEEN" high) negated

def inListOf (e list : Expr) (negated : Bool) : Except Failure Expr := do
  match list with
  | rowConst items =>
    items.forM fun item => checkComparable "IN list" e.type item.type
    return inList (← asScalar "IN" e) list negated
  | _ => throw (.invalidExpression .listExpected)

/-- The pattern is compiled before it is checked that the text is no row constant. -/
def likeOf (engine : Regex.Engine) (e : Expr) (pattern : String) (negated ignoreCase : Bool) :
    Except Failure Expr := do
  if e.type != .text && e.type != .null then
    throw (mismatch DataType.text.name e.type "LIKE")
  match engine.compile (Like.regexOf engine.escape pattern) ignoreCase with
  | .error reason => throw (.invalidExpression (.badPattern pattern reason))
  | .ok regex => return like (← asScalar "LIKE" e) pattern regex negated

def castOf (e : Expr) (target : DataType) : Except Failure Expr := do
  return cast (← asScalar "CAST" e) target

/-- Casts an expression to `target`, unless it has that type or is always null. -/
def widen (target : DataType) (e : Expr) : Expr :=
  if e.type = target ∨ e.type = .null then e else cast e target

/-- The type that holds the values of both types: null goes with everything, and numbers of two
kinds become floats. -/
def mergeTypes (a b : DataType) : Except Failure DataType :=
  if a = .null then .ok b
  else if b = .null ∨ a = b then .ok a
  else if a.isNumeric ∧ b.isNumeric then .ok .float
  else .error (mismatch a.name b "CASE result")

def branchOf (type : DataType) (condition result : Expr) : Except Failure (Expr × Expr) := do
  let value ← asScalar "CASE THEN" result
  return (← asCondition "CASE WHEN" condition, widen type value)

def caseWhenOf (branches : List (Expr × Expr)) (otherwise : Option Expr) : Except Failure Expr := do
  if branches.isEmpty then throw (.invalidExpression .noBranch)
  let results := branches.map (·.2) ++ otherwise.toList
  let type ← results.foldlM (fun type e => mergeTypes type e.type) DataType.null
  let checked ← branches.mapM fun (condition, result) => branchOf type condition result
  match otherwise with
  | none => return caseWhen checked none type
  | some e => return caseWhen checked (some (widen type (← asScalar "CASE ELSE" e))) type

/-- A call of the function that the registry resolves to. Arguments whose type is not the declared
one are cast to it. -/
def callOf (registry : Registry) (name : String) (args : List Expr) : Except Failure Expr := do
  let f ← registry.resolve name (args.map type)
  let bound ← (args.zip f.params).mapM fun (arg, declared) => do
    return widen declared (← asScalar f.name arg)
  return call f bound

end RowEngine.Expr
