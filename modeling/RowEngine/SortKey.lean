import RowEngine.Row
import RowEngine.Schema
import RowEngine.Value.Order

/-!
# Sort keys

Rows are compared by a list of keys, and the first key that tells them apart decides. Each key says
for itself whether nulls come first, whatever its direction. A column that a row does not have
counts as null.
-/

namespace RowEngine

structure SortKey where
  column : Nat
  ascending : Bool
  nullsFirst : Bool
  deriving DecidableEq, Repr

namespace SortKey

/-- A sort key as asked for: it names its column and may leave the place of nulls open. -/
structure Request where
  name : String
  ascending : Bool
  nullsFirst : Option Bool
  deriving DecidableEq, Repr

def compareValues (key : SortKey) (a b : Value) : Ordering :=
  match a.isNull, b.isNull with
  | true, true => .eq
  | true, false => if key.nullsFirst then .lt else .gt
  | false, true => if key.nullsFirst then .gt else .lt
  | false, false => if key.ascending then a.compare b else (a.compare b).swap

def compare (key : SortKey) (a b : RowView) : Ordering :=
  key.compareValues ((a.value key.column).getD .null) ((b.value key.column).getD .null)

def compareRows (keys : List SortKey) (a b : RowView) : Ordering :=
  keys.foldr (fun key rest => (key.compare a b).then rest) .eq

def resolve (schema : Schema) (defaultNullsFirst : Bool) (request : Request) :
    Except Failure SortKey := do
  let column ← schema.resolve request.name
  return ⟨column, request.ascending, request.nullsFirst.getD defaultNullsFirst⟩

/-- The keys that are asked for, of which there is at least one. -/
def resolveAll (schema : Schema) (defaultNullsFirst : Bool) (requests : List Request) :
    Except Failure (List SortKey) :=
  if requests.isEmpty then .error (.invalidExpression .noSortKey)
  else requests.mapM (resolve schema defaultNullsFirst)

end SortKey

end RowEngine
