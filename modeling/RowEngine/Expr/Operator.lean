/-!
# Operators of expressions
-/

namespace RowEngine

inductive UnaryOp where
  | not
  | negate
  deriving DecidableEq, Repr

namespace UnaryOp

def name : UnaryOp → String
  | not => "Not"
  | negate => "Negate"

end UnaryOp

inductive BinaryOp where
  | plus
  | minus
  | times
  | divide
  | modulo
  | equal
  | notEqual
  | less
  | lessEqual
  | greater
  | greaterEqual
  | and
  | or
  deriving DecidableEq, Repr

namespace BinaryOp

def symbol : BinaryOp → String
  | plus => "+"
  | minus => "-"
  | times => "*"
  | divide => "/"
  | modulo => "%"
  | equal => "="
  | notEqual => "<>"
  | less => "<"
  | lessEqual => "<="
  | greater => ">"
  | greaterEqual => ">="
  | and => "AND"
  | or => "OR"

def isArithmetic : BinaryOp → Bool
  | plus | minus | times | divide | modulo => true
  | _ => false

def isComparison : BinaryOp → Bool
  | equal | notEqual | less | lessEqual | greater | greaterEqual => true
  | _ => false

def isLogical : BinaryOp → Bool
  | and | or => true
  | _ => false

end BinaryOp

end RowEngine
