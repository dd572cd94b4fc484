import RowEngine.Join.LeftOuter
import RowEngine.Operator.Leaf
import RowEngine.Operator.Sorting
import RowEngine.Operator.Streaming
import RowEngine.Settings.Basic

/-!
# Plans

A plan is a tree of operators. It is built from the leaves up, and each step checks what it adds
against the schema of its inputs. `Plan.operator` is the machine that runs the whole tree.
-/

namespace RowEngine

inductive Plan where
  | scan (relation : Relation)
  | scripted (script : Script)
  | filter (input : Plan) (predicate : Expr)
  | project (input : Plan) (projection : Projection)
  | limit (input : Plan) (count : Nat)
  | sort (input : Plan) (keys : List SortKey)
  | join (left right : Plan) (plan : JoinPlan)

namespace Plan

def operator : Plan → Operator
  | scan relation => .scan relation
  | scripted script => .scripted script
  | filter input predicate => input.operator.filter predicate
  | project input projection => input.operator.project projection
  | limit input count => input.operator.limit count
  | sort input keys => input.operator.sort keys
  | join left right plan => left.operator.leftJoin right.operator plan

def schema (p : Plan) : Schema := p.operator.schema

/-- A scan of rows, each of which has a value for each column. -/
def ofRows (schema : Schema) (rows : List Row) : Except Failure Plan := do
  return scan (← Relation.make schema rows)

def filterBy (input : Plan) (predicate : Expr) : Except Failure Plan :=
  if predicate.type.isCondition then .ok (filter input predicate)
  else .error (Expr.mismatch DataType.boolean.name predicate.type "filter predicate")

def projectTo (input : Plan) (targets : List Target) : Except Failure Plan := do
  return project input (← Projection.ofTargets input.schema targets)

def sortBy (settings : Settings) (input : Plan) (keys : List SortKey.Request) :
    Except Failure Plan := do
  return sort input (← SortKey.resolveAll input.schema settings.nullsFirst keys)

/-- A join, with the entry that its making leaves in the log. -/
def joinOn (left right : Plan) (condition : Expr) (targets : Option (List Target)) :
    Except Failure (Plan × LogEntry) := do
  let plan ← JoinPlan.make left.schema right.schema condition targets
  return (join left right plan, plan.logEntry)

/-- The states of the scripted leaves, left to right. -/
def scriptStates : (p : Plan) → p.operator.State → List Script.State
  | scan _, _ => []
  | scripted _, s => [s]
  | filter input _, s => input.scriptStates s
  | project input _, s => input.scriptStates s
  | limit input _, s => input.scriptStates s.input
  | sort input _, s => input.scriptStates s.input
  | join left right _, s => left.scriptStates s.left ++ right.scriptStates s.right

/-- The build of a join at the root. -/
def rootBuild? : (p : Plan) → p.operator.State → Option BuildSide
  | join _ _ _, s => some s.build
  | _, _ => none

end Plan

end RowEngine
