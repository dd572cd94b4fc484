import RowEngine.Expr.Basic

/-!
# Column references

The columns that an expression reads, left to right.
-/

namespace RowEngine

structure ColumnRef where
  id : Nat
  name : String
  deriving DecidableEq, Repr

namespace Expr

mutual

def references : Expr → List ColumnRef
  | column id _ name => [⟨id, name⟩]
  | const _ | rowConst _ | extension _ => []
  | unary _ arg | isNull arg _ | cast arg _ | like arg _ _ _ => references arg
  | binary _ left right _ => references left ++ references right
  | between arg low high _ => references arg ++ references low ++ references high
  | inList arg list _ => references arg ++ references list
  | caseWhen branches otherwise _ => branchReferences branches ++ elseReferences otherwise
  | call _ args => argReferences args
termination_by structural e => e

def argReferences : List Expr → List ColumnRef
  | [] => []
  | e :: rest => references e ++ argReferences rest
termination_by structural es => es

def branchReferences : List (Expr × Expr) → List ColumnRef
  | [] => []
  | (condition, result) :: rest =>
    references condition ++ references result ++ branchReferences rest
termination_by structural bs => bs

def elseReferences : Option Expr → List ColumnRef
  | none => []
  | some e => references e
termination_by structural o => o

end

/-- The first column read that a row of the given width does not have. -/
def stray? (width : Nat) (e : Expr) : Option ColumnRef :=
  e.references.find? fun ref => decide (width ≤ ref.id)

end Expr

end RowEngine
