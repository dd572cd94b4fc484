/-!
# JSON documents

The tree of a JSON text. Numbers stay as they are written, because what they stand for depends on
what is expected where they stand. A text is missing where its escapes form no text: half of a
surrogate pair may be written but has no meaning.
-/

namespace RowEngine

namespace Json

structure Number where
  negative : Bool
  whole : List Char
  /-- The digits after a point, if there is one. -/
  places : Option (List Char)
  /-- The sign of an exponent and its digits, if there is one. -/
  exponent : Option (Bool × List Char)
  deriving DecidableEq, Repr

end Json

inductive Json where
  | null
  | boolean (b : Bool)
  | number (n : Json.Number)
  | text (s : Option String)
  | array (items : List Json)
  | object (fields : List (Option String × Json))

end RowEngine
