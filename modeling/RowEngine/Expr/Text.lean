import RowEngine.Expr.Basic
import RowEngine.Value.Text

/-!
# Expressions as text
-/

namespace RowEngine.Expr

def constText : Value → String
  | .text s => s!"'{s}'"
  | v => v.toString

def notWord (negated : Bool) : String := if negated then "NOT " else ""

mutual

protected def toString : Expr → String
  | column _ _ name => name
  | const v => constText v
  | rowConst values => "(" ++ ", ".intercalate (values.map Value.toString) ++ ")"
  | unary .not arg => "NOT " ++ arg.toString
  | unary .negate arg => "-" ++ arg.toString
  | binary op left right _ =>
    "(" ++ left.toString ++ " " ++ op.symbol ++ " " ++ right.toString ++ ")"
  | isNull arg negated => arg.toString ++ " IS " ++ notWord negated ++ "NULL"
  | between arg low high negated =>
    arg.toString ++ " " ++ notWord negated ++ "BETWEEN " ++ low.toString ++ " AND " ++
      high.toString
  | inList arg list negated => arg.toString ++ " " ++ notWord negated ++ "IN " ++ list.toString
  | like arg pattern _ negated =>
    arg.toString ++ " " ++ notWord negated ++ "LIKE '" ++ pattern ++ "'"
  | cast arg target => "CAST(" ++ arg.toString ++ " AS " ++ target.name ++ ")"
  | caseWhen branches otherwise _ =>
    "CASE" ++ branchesText branches ++ elseText otherwise ++ " END"
  | call f args => f.name ++ "(" ++ ",".intercalate (texts args) ++ ")"
  | extension node => node.name
termination_by structural e => e

def texts : List Expr → List String
  | [] => []
  | e :: rest => e.toString :: texts rest
termination_by structural es => es

def branchesText : List (Expr × Expr) → String
  | [] => ""
  | (condition, result) :: rest =>
    " WHEN " ++ condition.toString ++ " THEN " ++ result.toString ++ branchesText rest
termination_by structural bs => bs

def elseText : Option Expr → String
  | none => ""
  | some e => " ELSE " ++ e.toString
termination_by structural o => o

end

end RowEngine.Expr
