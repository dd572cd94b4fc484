import RowEngine.Error

/-!
# Schemas

The columns of a table or of an operator's output, in order. Names are looked up once, when
something is built over a schema; rows are then read by position.
-/

namespace RowEngine

structure Column where
  name : String
  type : DataType
  nullable : Bool
  deriving DecidableEq, Repr

structure Schema where
  columns : List Column
  deriving DecidableEq, Repr

namespace Schema

def size (s : Schema) : Nat := s.columns.length

def isEmpty (s : Schema) : Bool := s.columns.isEmpty

def column? (s : Schema) (i : Nat) : Option Column := s.columns[i]?

def index? (s : Schema) (name : String) : Option Nat :=
  s.columns.findIdx? (·.name == name)

def positions (s : Schema) (name : String) : List Nat :=
  (s.columns.zipIdx.filter (·.1.name == name)).map (·.2)

/-- The position of the only column of a name. -/
def resolve (s : Schema) (name : String) : Except Failure Nat :=
  match s.positions name with
  | [] => .error (.columnNotFound (.named name))
  | [i] => .ok i
  | _ => .error (.ambiguousColumn name)

/-- The columns of two inputs side by side, as a join reads them. -/
def append (left right : Schema) : Schema := ⟨left.columns ++ right.columns⟩

instance : Append Schema := ⟨append⟩

@[simp] theorem columns_append (left right : Schema) :
    (left ++ right).columns = left.columns ++ right.columns := rfl
@[simp] theorem size_append (left right : Schema) :
    (left ++ right).size = left.size + right.size := by simp [size]

end Schema

end RowEngine
