import RowEngine.Function.Basic

/-!
# Registries of functions

A registry holds functions in the order in which they were registered. Several may share a name: a
call goes to the first whose parameters are exactly the types of the arguments, else to the first
that accepts them.
-/

namespace RowEngine

structure Registry where
  functions : List ScalarFunction

namespace Registry

def empty : Registry := ⟨[]⟩

def register (r : Registry) (name : String) (params : List DataType) (returns : DataType)
    (nullPolicy : NullPolicy) (body : List Value → Except EvalError Value) : Registry :=
  ⟨r.functions ++ [⟨lowerCase name, params, returns, nullPolicy, body, r.functions.length⟩]⟩

def overloads (r : Registry) (key : String) : List ScalarFunction :=
  r.functions.filter (·.name == key)

def contains (r : Registry) (name : String) : Bool :=
  !(r.overloads (lowerCase name)).isEmpty

def select? (functions : List ScalarFunction) (types : List DataType) : Option ScalarFunction :=
  (functions.find? (·.params == types)).or (functions.find? (·.acceptsAll types))

/-- The function that a call by this name with arguments of these types goes to. -/
def resolve (r : Registry) (name : String) (types : List DataType) :
    Except Failure ScalarFunction :=
  let key := lowerCase name
  let candidates := r.overloads key
  if candidates.isEmpty then .error (.functionNotFound (signatureText key types))
  else
    match select? candidates types with
    | some f => .ok f
    | none =>
      .error (.typeMismatch (" | ".intercalate (candidates.map ScalarFunction.signature))
        (signatureText key types) s!"call to function '{key}'")

end Registry

end RowEngine
