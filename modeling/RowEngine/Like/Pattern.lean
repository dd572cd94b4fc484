import RowEngine.Regex.Basic

/-!
# LIKE patterns

In a pattern `%` stands for any run of characters and `_` for any one character, line breaks
included. A backslash makes the character after it stand for itself; one at the very end stands for
a backslash. A pattern is written as a regular expression that is anchored at both ends of a text.
-/

namespace RowEngine.Like

def regexBody (escape : String → String) : List Char → List Char
  | [] => []
  | '%' :: rest => ".*".toList ++ regexBody escape rest
  | '_' :: rest => '.' :: regexBody escape rest
  | ['\\'] => (escape "\\").toList
  | '\\' :: c :: rest => (escape (String.singleton c)).toList ++ regexBody escape rest
  | c :: rest => (escape (String.singleton c)).toList ++ regexBody escape rest

def regexOf (escape : String → String) (pattern : String) : String :=
  String.ofList ("(?s)^".toList ++ regexBody escape pattern.toList ++ ['$'])

end RowEngine.Like
