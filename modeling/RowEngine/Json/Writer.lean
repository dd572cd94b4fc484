import RowEngine.Decimal.Layout

/-!
# Writing JSON

Documents are written without white space. In a text only quotes, backslashes and control characters
are escaped. A float keeps a fraction or an exponent; what is not finite has no number and is
written as null.
-/

namespace RowEngine.Json.Writer

/-- Digits stay positional down to `0.00001` and below `10 ^ 16`, and every exponent is signed; of
two nearest digit sequences the even one is taken. -/
def numberLayout : Layout := ⟨some (-4, 16), true, true, .even⟩

def escaped (c : Char) : List Char :=
  match c with
  | '"' => ['\\', '"']
  | '\\' => ['\\', '\\']
  | '\x08' => ['\\', 'b']
  | '\x0c' => ['\\', 'f']
  | '\n' => ['\\', 'n']
  | '\r' => ['\\', 'r']
  | '\t' => ['\\', 't']
  | c =>
    if c.toNat < 0x20 then
      ['\\', 'u', '0', '0', Nat.digitChar (c.toNat / 16), Nat.digitChar (c.toNat % 16)]
    else [c]

def text (s : String) : String := String.ofList ('"' :: (s.toList.flatMap escaped ++ ['"']))

def boolean (b : Bool) : String := if b then "true" else "false"

def float (x : Binary64) : String := if x.isFinite then numberLayout.text x else "null"

def array (items : List String) : String := "[" ++ ",".intercalate items ++ "]"

def object (fields : List (String × String)) : String :=
  "\x7b" ++ ",".intercalate (fields.map fun (key, value) => text key ++ ":" ++ value) ++ "\x7d"

end RowEngine.Json.Writer
