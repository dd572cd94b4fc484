import RowEngine.Json.Basic
import RowEngine.Text.Digits
import RowEngine.Text.Reader

/-!
# Reading JSON

The grammar is that of the standard: four kinds of white space, no comments, no comma after the last
item, no zeros in front of a number.
-/

namespace RowEngine.Json.Reader

open TextReader

def isSpace (c : Char) : Bool := c == ' ' || c == '\n' || c == '\t' || c == '\r'

def token {α : Type} (p : TextReader α) : TextReader α := p <* takeWhile isSpace

/-- What stands in a text literal: a character, or a 16-bit unit written by its code. -/
inductive Piece where
  | char (c : Char)
  | unit (code : Nat)

def shortEscape? : Char → Option Char
  | '"' => some '"'
  | '\\' => some '\\'
  | '/' => some '/'
  | 'b' => some '\x08'
  | 'f' => some '\x0c'
  | 'n' => some '\n'
  | 'r' => some '\r'
  | 't' => some '\t'
  | _ => none

def escape : TextReader Piece := do
  char '\\'
  let c ← satisfying fun _ => true
  if c == 'u' then return .unit (natOfDigits 16 (← exactly 4 isHexDigit))
  match shortEscape? c with
  | some plain => return .char plain
  | none => failure

def piece : TextReader Piece :=
  (Piece.char <$> satisfying fun c => decide (0x20 ≤ c.toNat) && c != '"' && c != '\\') <|> escape

def isHigh (code : Nat) : Bool := decide (0xd800 ≤ code) && decide (code < 0xdc00)

def isLow (code : Nat) : Bool := decide (0xdc00 ≤ code) && decide (code < 0xe000)

/-- Joins the two halves of surrogate pairs; a half alone makes the whole text meaningless. -/
def join? : List Piece → Option (List Char)
  | [] => some []
  | .char c :: rest => (join? rest).map (c :: ·)
  | .unit high :: .unit low :: rest =>
    if isHigh high then
      if isLow low then
        (join? rest).map (Char.ofNat (0x10000 + (high - 0xd800) * 0x400 + (low - 0xdc00)) :: ·)
      else none
    else if isLow high then none
    else (join? (.unit low :: rest)).map (Char.ofNat high :: ·)
  | .unit code :: rest =>
    if isHigh code || isLow code then none else (join? rest).map (Char.ofNat code :: ·)

def textLiteral : TextReader (Option String) := do
  char '"'
  let pieces ← many piece
  char '"'
  return (join? pieces).map String.ofList

def wholeDigits : TextReader (List Char) := do
  let digits ← takeWhile1 Char.isDigit
  match digits with
  | '0' :: _ :: _ => failure
  | _ => return digits

def exponentPart : TextReader (Bool × List Char) := do
  discard (satisfying fun c => c == 'e' || c == 'E')
  let sign ← optional (satisfying fun c => c == '+' || c == '-')
  return (sign == some '-', ← takeWhile1 Char.isDigit)

/-- An optional part that is there as soon as it begins. -/
def partIf {α : Type} (begins : Char → Bool) (p : TextReader α) : TextReader (Option α) := do
  match ← peek with
  | some c => if begins c then some <$> p else return none
  | none => return none

def number : TextReader Number := do
  let sign ← optional (char '-')
  let whole ← wholeDigits
  let places ← partIf (· == '.') (char '.' *> takeWhile1 Char.isDigit)
  let exponent ← partIf (fun c => c == 'e' || c == 'E') exponentPart
  return ⟨sign.isSome, whole, places, exponent⟩

def arrayOf (value : TextReader Json) : TextReader Json := do
  token (char '[')
  let items ← separated0 (token (char ',')) value
  token (char ']')
  return .array items

def objectOf (value : TextReader Json) : TextReader Json := do
  token (char '\x7b')
  let fields ← separated0 (token (char ',')) do
    let key ← token textLiteral
    token (char ':')
    return (key, ← value)
  token (char '\x7d')
  return .object fields

/-- A value in which arrays and objects are nested at most `depth` deep. -/
def value : Nat → TextReader Json
  | 0 => failure
  | depth + 1 => do
    match ← peek with
    | some '[' => arrayOf (value depth)
    | some '\x7b' => objectOf (value depth)
    | some '"' => Json.text <$> token textLiteral
    | some 'n' => token (string "null") *> pure .null
    | some 't' => token (string "true") *> pure (.boolean true)
    | some 'f' => token (string "false") *> pure (.boolean false)
    | _ => Json.number <$> token number

end Reader

/-- The document in a text. No value is nested deeper than the text is long. -/
def read? (s : String) : Option Json :=
  let cs := s.toList
  (takeSpace *> Reader.value (cs.length + 1)).whole? cs
where
  takeSpace : TextReader (List Char) := TextReader.takeWhile Reader.isSpace

end RowEngine.Json
