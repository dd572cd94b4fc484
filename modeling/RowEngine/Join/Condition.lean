import RowEngine.Event
import RowEngine.Expr.Conjuncts
import RowEngine.Expr.References
import RowEngine.Projection

/-!
# Join conditions

A join condition is split into the join quals, whose columns become the keys of the two sides, and
the rest, which filters the pairs of rows with equal keys. There must be at least one qual, and both
columns of a qual must have one type.
-/

namespace RowEngine

structure JoinPlan where
  /-- The columns of both inputs, side by side. -/
  input : Schema
  qual : Expr
  filter : Option Expr
  projection : Projection
  leftKeys : List Nat
  rightKeys : List Nat
  rightWidth : Nat

namespace JoinPlan

def checkPair (left right : Schema) (pair : Nat × Nat) : Except Failure Unit :=
  match left.column? pair.1, right.column? pair.2 with
  | some l, some r =>
    if l.type = r.type then .ok ()
    else .error (.invalidJoinKeys (.typesDiffer l.name l.type r.name r.type))
  | _, _ => .error (.internal s!"join key pair ({pair.1}, {pair.2}) out of range")

def make (left right : Schema) (condition : Expr) (targets : Option (List Target)) :
    Except Failure JoinPlan := do
  let input := left ++ right
  if condition.type != .boolean then
    throw (Expr.mismatch DataType.boolean.name condition.type "join condition")
  if let some ref := condition.stray? input.size then
    throw (.columnNotFound (.outsideJoin ref.name ref.id input.size))
  let (quals, residual) := Expr.splitQuals left.size condition.conjuncts
  let pairs ← Expr.keyPairs left.size quals
  if pairs.isEmpty then throw (.invalidJoinKeys .noEquality)
  pairs.forM (checkPair left right)
  match ← Expr.conjoin quals with
  | none => throw (.internal "empty join qual")
  | some qual =>
    let filter ← Expr.conjoin residual
    let projection ← Projection.make input targets
    return ⟨input, qual, filter, projection, pairs.map (·.1), pairs.map (·.2), right.size⟩

def logEntry (p : JoinPlan) : LogEntry :=
  .joinPlanned p.qual.toString (p.filter.map Expr.toString)

end JoinPlan

end RowEngine
