import RowEngine.Value.Order

/-!
# Three-valued logic

Conditions are true, false or unknown; null is unknown, and so is every value that is no boolean.
-/

namespace RowEngine.Value

def not3 : Value → Value
  | boolean b => boolean (!b)
  | _ => null

/-- False if either side is false, true if both are true. -/
def and3 : Value → Value → Value
  | boolean false, _ => boolean false
  | _, boolean false => boolean false
  | boolean true, boolean true => boolean true
  | _, _ => null

def or3 (a b : Value) : Value := not3 (and3 (not3 a) (not3 b))

/-- A comparison, which is unknown if either side is null. -/
def compare3 (accept : Ordering → Bool) (a b : Value) : Value :=
  if a.isNull || b.isNull then null else boolean (accept (a.compare b))

def negateIf (negated : Bool) (v : Value) : Value := if negated then not3 v else v

/-- Whether a value is in a list: true if some item equals it, else unknown if some item is null. -/
def isIn (v : Value) (items : List Value) : Value :=
  if v.isNull then null
  else if items.any fun item => !item.isNull && (v.compare item).isEq then boolean true
  else if items.any isNull then null
  else boolean false

end RowEngine.Value
