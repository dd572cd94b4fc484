/-!
# Regular expressions

Regular expressions are compiled and matched by an engine that is not part of this library. All that
is asked of one is here; what its documentation says of it is stated where it is needed.
-/

namespace RowEngine

structure Regex where
  isMatch : String → Bool

structure Regex.Engine where
  /-- Writes a text so that it stands for itself in a regular expression. -/
  escape : String → String
  compile : (regex : String) → (ignoreCase : Bool) → Except String Regex

end RowEngine
