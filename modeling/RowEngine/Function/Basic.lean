import RowEngine.Error
import RowEngine.Text.CaseMap
import RowEngine.Text.Quoted
import RowEngine.Value.Basic

/-!
# Scalar functions

A function has a signature, a body and a rule for null arguments. Names are told apart in lower
case.
-/

namespace RowEngine

inductive NullPolicy where
  /-- Any null argument makes the result null, and the body is not called. -/
  | returnsNull
  /-- The body is always called. -/
  | called
  deriving DecidableEq, Repr

structure ScalarFunction where
  name : String
  params : List DataType
  returns : DataType
  nullPolicy : NullPolicy
  body : List Value → Except EvalError Value
  /-- The number of functions registered earlier. It tells functions of one signature apart. -/
  place : Nat

def signatureText (name : String) (types : List DataType) : String :=
  name ++ "(" ++ ", ".intercalate (types.map DataType.name) ++ ")"

namespace ScalarFunction

def signature (f : ScalarFunction) : String := signatureText f.name f.params

/-- The text that shows a function without its body. -/
def inspect (f : ScalarFunction) : String :=
  "FnScalar \x7b name: " ++ quoted f.name ++ ", .. \x7d"

/-- Arguments of these types can be passed, if need be by widening integers to floats. -/
def acceptsAll (f : ScalarFunction) (types : List DataType) : Bool :=
  f.params.length == types.length && (f.params.zip types).all fun (p, t) => p.accepts t

end ScalarFunction

end RowEngine
