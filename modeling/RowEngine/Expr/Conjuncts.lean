import RowEngine.Expr.Build
import RowEngine.Expr.Text

/-!
# Conjuncts

A condition is taken apart at the `AND`s at its root and put together again as a tree that leans
left. Among the conjuncts of a join condition, the equalities between a column of the left and a
column of the right input are the join quals.
-/

namespace RowEngine.Expr

/-- The operands of the `AND`s at the root, left to right. -/
def conjuncts : Expr → List Expr
  | binary .and left right _ => left.conjuncts ++ right.conjuncts
  | e => [e]

/-- All conditions joined by `AND`, or nothing for an empty list. -/
def conjoin : List Expr → Except Failure (Option Expr)
  | [] => .ok none
  | first :: rest => do
    return some (← rest.foldlM and first)

def equalColumns? : Expr → Option (Nat × Nat)
  | binary .equal (column a _ _) (column b _ _) _ => some (a, b)
  | _ => none

/-- An equality between columns that do not both belong to one side of a join. -/
def linksSides (leftWidth : Nat) (e : Expr) : Bool :=
  e.equalColumns?.any fun (a, b) => decide (a < leftWidth) != decide (b < leftWidth)

/-- The columns of an equality between the two sides of a join: a column of the left input and a
column of the right input, counted from the start of its side. -/
def keyPair? (leftWidth : Nat) (e : Expr) : Option (Nat × Nat) :=
  match e.equalColumns? with
  | some (a, b) =>
    if a < leftWidth ∧ leftWidth ≤ b then some (a, b - leftWidth)
    else if b < leftWidth ∧ leftWidth ≤ a then some (b, a - leftWidth)
    else none
  | none => none

def splitQuals (leftWidth : Nat) (es : List Expr) : List Expr × List Expr :=
  es.partition (linksSides leftWidth)

def keyPairs (leftWidth : Nat) (quals : List Expr) : Except Failure (List (Nat × Nat)) :=
  quals.mapM fun qual =>
    match qual.keyPair? leftWidth with
    | some pair => .ok pair
    | none => .error (.invalidJoinKeys (.notEquality qual.toString))

end RowEngine.Expr
