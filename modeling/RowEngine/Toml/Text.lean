import RowEngine.Text.Digits
import RowEngine.Text.Reader

/-!
# Texts, keys and blanks in TOML

Texts stand in double quotes, with escapes, or in single quotes, without; three quotes in a row open
a text of several lines. A key is a bare word or a text of one line, and dots lead into tables.
-/

namespace RowEngine.Toml

open TextReader

def isBlankChar (c : Char) : Bool := c == ' ' || c == '\t'

/-- Control characters other than the tab stand nowhere in a document. -/
def isPlain (c : Char) : Bool := c == '\t' || (decide (0x20 ≤ c.toNat) && c.toNat != 0x7f)

def blanks : TextReader Unit := discard (takeWhile isBlankChar)

def newline : TextReader Unit := char '\n' <|> (char '\r' *> char '\n')

def comment : TextReader Unit := char '#' *> discard (takeWhile isPlain)

def lineEnd : TextReader Unit := newline <|> atEnd

def lineRest : TextReader Unit := do
  blanks
  discard (optional comment)
  lineEnd

def gap : TextReader Unit := do
  blanks
  discard (many ((newline <|> (comment *> newline)) *> blanks))

def charOf? (code : Nat) : Option Char :=
  if code.isValidChar then some (Char.ofNat code) else none

def shortEscape? : Char → Option Char
  | 'b' => some '\x08'
  | 'f' => some '\x0c'
  | 'n' => some '\n'
  | 'r' => some '\r'
  | 't' => some '\t'
  | '\\' => some '\\'
  | '"' => some '"'
  | _ => none

def codeEscape (digits : Nat) : TextReader Char := do
  match charOf? (natOfDigits 16 (← exactly digits isHexDigit)) with
  | some c => return c
  | none => failure

def escape : TextReader Char := do
  char '\\'
  match ← satisfying fun _ => true with
  | 'u' => codeEscape 4
  | 'U' => codeEscape 8
  | c =>
    match shortEscape? c with
    | some plain => return plain
    | none => failure

def isBasicChar (c : Char) : Bool := isPlain c && c != '"' && c != '\\'

def isLiteralChar (c : Char) : Bool := isPlain c && c != '\''

def basicText : TextReader String := do
  char '"'
  let cs ← many (satisfying isBasicChar <|> escape)
  char '"'
  return String.ofList cs

def literalText : TextReader String := do
  char '\''
  let cs ← takeWhile isLiteralChar
  char '\''
  return String.ofList cs

/-- A backslash at the end of a line, which takes the blanks and line breaks after it away. -/
def lineJoin : TextReader (List Char) := do
  char '\\'
  blanks
  newline
  discard (many (discard (takeWhile1 isBlankChar) <|> newline))
  return []

def lineBreak : TextReader (List Char) := newline *> pure ['\n']

/-- One or two quotes that do not belong to a closing three. -/
def innerQuotes (quote : Char) : TextReader (List Char) := fun cs =>
  let run := cs.takeWhile (· == quote)
  if run.isEmpty || 3 ≤ run.length then none else some (run, cs.drop run.length)

/-- The closing three quotes, with up to two more in front of them that belong to the text. -/
def closingQuotes (quote : Char) : TextReader (List Char) := fun cs =>
  let run := cs.takeWhile (· == quote)
  if run.length < 3 then none
  else
    let taken := min run.length 5
    some (List.replicate (taken - 3) quote, cs.drop taken)

/-- A text of several lines; a line break right after the opening quotes is not part of it. -/
def multiline (quote : Char) (piece : TextReader (List Char)) : TextReader String := do
  string (String.ofList [quote, quote, quote])
  discard (optional newline)
  let pieces ← many (piece <|> lineBreak <|> innerQuotes quote)
  let last ← closingQuotes quote
  return String.ofList (pieces.flatten ++ last)

def multilineBasic : TextReader String :=
  multiline '"' (takeWhile1 isBasicChar <|> ((fun c => [c]) <$> escape) <|> lineJoin)

def multilineLiteral : TextReader String := multiline '\'' (takeWhile1 isLiteralChar)

def textValue : TextReader String :=
  multilineBasic <|> basicText <|> multilineLiteral <|> literalText

def isBareChar (c : Char) : Bool := c.isAlphanum || c == '-' || c == '_'

def simpleKey : TextReader String :=
  (String.ofList <$> takeWhile1 isBareChar) <|> basicText <|> literalText

/-- The most that arrays and tables may be nested, and the most parts of a key. -/
def nestingLimit : Nat := 79

/-- The parts of a key, of which there is at least one. -/
def key : TextReader (List String) := do
  let parts ← separated (char '.') (blanks *> simpleKey <* blanks)
  if parts.length ≤ nestingLimit then return parts else failure

end RowEngine.Toml
