import RowEngine.Binary64.Arith
import RowEngine.Function.Registry
import RowEngine.Value.Inspect

/-!
# Built-in functions

Absolute value, rounding and square root of numbers, case, length and concatenation of texts, and
`coalesce` of two values of any one type.
-/

namespace RowEngine.Builtin

def failed (name reason : String) : EvalError := .functionFailed name reason

def unexpected (name type : String) (i : Nat) (arg : Option Value) : EvalError :=
  failed name s!"expected {type} argument {i}, got {Value.inspectArgument arg}"

def textArg (name : String) (args : List Value) (i : Nat) : Except EvalError String :=
  match args[i]? with
  | some (.text s) => .ok s
  | arg => .error (unexpected name "Text" i arg)

def floatArg (name : String) (args : List Value) (i : Nat) : Except EvalError Binary64 :=
  match args[i]? with
  | some (.float x) => .ok x
  | arg => .error (unexpected name "Float" i arg)

/-- The least integer has no absolute value among the integers. -/
def absInteger : List Value → Except EvalError Value
  | [.integer n] =>
    if n = Int64.minValue then .error (.arithmeticOverflow "abs")
    else .ok (.integer (if n < 0 then -n else n))
  | args => .error (failed "abs" s!"unexpected arguments {Value.inspectList args}")

def absFloat (args : List Value) : Except EvalError Value := do
  return .float (← floatArg "abs" args 0).abs

def upper (args : List Value) : Except EvalError Value := do
  return .text (upperCase (← textArg "upper" args 0))

def lower (args : List Value) : Except EvalError Value := do
  return .text (lowerCase (← textArg "lower" args 0))

def length (args : List Value) : Except EvalError Value := do
  let count := (← textArg "length" args 0).length
  if count ≤ Int64.maxValue.toInt then return .integer (Int64.ofNat count)
  else throw (.arithmeticOverflow "length")

def concat (args : List Value) : Except EvalError Value := do
  let first ← textArg "concat" args 0
  let second ← textArg "concat" args 1
  return .text (first ++ second)

def round (args : List Value) : Except EvalError Value := do
  return .float (← floatArg "round" args 0).round

/-- Negative numbers have no root; a negative zero is its own root. -/
def sqrt (args : List Value) : Except EvalError Value := do
  let x ← floatArg "sqrt" args 0
  if x.rank < 0 then throw (failed "sqrt" "cannot take the square root of a negative number")
  else return .float x.sqrt

def coalesce (args : List Value) : Except EvalError Value :=
  .ok ((args.find? fun v => !v.isNull).getD .null)

def registry : Registry :=
  let scalars := Registry.empty
    |>.register "abs" [.integer] .integer .returnsNull absInteger
    |>.register "abs" [.float] .float .returnsNull absFloat
    |>.register "upper" [.text] .text .returnsNull upper
    |>.register "lower" [.text] .text .returnsNull lower
    |>.register "length" [.text] .integer .returnsNull length
    |>.register "concat" [.text, .text] .text .returnsNull concat
    |>.register "round" [.float] .float .returnsNull round
    |>.register "sqrt" [.float] .float .returnsNull sqrt
  DataType.all.foldl
    (fun r t => r.register "coalesce" [t, t] t .called coalesce) scalars

end RowEngine.Builtin
