import RowEngine.Date.Basic
import RowEngine.Decimal.Reader
import RowEngine.Toml.Basic
import RowEngine.Toml.Text

/-!
# Values in TOML

Numbers, dates, texts, arrays and tables in braces. Digits may be separated by single underscores;
an integer has no zeros in front and fits into 64 bits, and a float is not past the largest one. A
table in braces stands on one line, and its keys may have dots.
-/

namespace RowEngine.Toml

open TextReader

/-- Digits with single underscores between them, which are dropped. -/
def digitRun (test : Char → Bool) : TextReader (List Char) := do
  let first ← satisfying test
  let rest ← many (satisfying test <|> (char '_' *> satisfying test))
  return first :: rest

def sign : TextReader (List Char) := do
  match ← optional (satisfying fun c => c == '+' || c == '-') with
  | some c => return [c]
  | none => return []

/-- A sign and digits that do not start with zero, or a single zero. -/
def decimalInteger : TextReader (List Char) := do
  let sign ← sign
  match ← peek with
  | some '0' => do
    char '0'
    return sign ++ ['0']
  | _ => return sign ++ (← digitRun Char.isDigit)

def isOctal (c : Char) : Bool := '0' ≤ c && c ≤ '7'

def isBinary (c : Char) : Bool := c == '0' || c == '1'

def basedInteger (letter : Char) (base : Nat) (test : Char → Bool) : TextReader Int64 := do
  char '0'
  char letter
  match int64OfInt? (natOfDigits base (← digitRun test)) with
  | some n => return n
  | none => failure

def integer : TextReader Int64 :=
  basedInteger 'x' 16 isHexDigit <|> basedInteger 'o' 8 isOctal <|>
    basedInteger 'b' 2 isBinary <|> do
      match readInt64? (← decimalInteger) with
      | some n => return n
      | none => failure

def exponentPart : TextReader (List Char) := do
  discard (satisfying fun c => c == 'e' || c == 'E')
  let sign ← sign
  return 'e' :: (sign ++ (← digitRun Char.isDigit))

def fractionPart : TextReader (List Char) := do
  char '.'
  let places ← digitRun Char.isDigit
  let exponent ← exponentPart <|> pure []
  return '.' :: (places ++ exponent)

/-- A number past the largest float is refused, but not one below the least. -/
def decimalFloat : TextReader Binary64 := do
  let whole ← decimalInteger
  let rest ← exponentPart <|> fractionPart
  match Binary64.read? (whole ++ rest) with
  | some x => if x == .infinity false then failure else return x
  | none => failure

def specialFloat : TextReader Binary64 := do
  let sign ← sign
  (string "inf" *> pure (.infinity (sign == ['-']))) <|> (string "nan" *> pure .nan)

def twoDigits (low high : Nat) : TextReader Nat := do
  let n := natOfDigits 10 (← exactly 2 Char.isDigit)
  if low ≤ n ∧ n ≤ high then return n else failure

def date : TextReader Unit := do
  let year := natOfDigits 10 (← exactly 4 Char.isDigit)
  char '-'
  let month ← twoDigits 1 12
  char '-'
  discard (twoDigits 1 (daysInMonth year month))

def time : TextReader Unit := do
  discard (twoDigits 0 23)
  char ':'
  discard (twoDigits 0 59)
  char ':'
  discard (twoDigits 0 60)
  discard (optional (char '.' *> takeWhile1 Char.isDigit))

def offset : TextReader Unit :=
  discard (satisfying fun c => c == 'Z' || c == 'z') <|> do
    discard (satisfying fun c => c == '+' || c == '-')
    discard (twoDigits 0 23)
    char ':'
    discard (twoDigits 0 59)

def dateTime : TextReader Unit :=
  (do
    date
    discard (optional do
      discard (satisfying fun c => c == 'T' || c == 't' || c == ' ')
      time
      discard (optional offset))) <|> time

/-- Goes down a path of keys, making the tables that are not there, and puts a value at its end. -/
def insertInline (path : List String) (last : String) (node : Node) (entries : Entries) :
    Option Entries :=
  match path with
  | [] =>
    match find? last entries with
    | some _ => none
    | none => some (set last node entries)
  | part :: rest =>
    match find? part entries with
    | none => (insertInline rest last node []).map fun inner =>
        set part (.inlineTable .dotted inner) entries
    | some (.inlineTable .dotted inner) =>
      (insertInline rest last node inner).map fun inner =>
        set part (.inlineTable .dotted inner) entries
    | some _ => none

/-- The table of the pairs in braces; each key leads to a new place. -/
def inlineTableOf (pairs : List (List String × Node)) : Option Entries :=
  pairs.foldlM (fun entries (path, node) =>
    match path.reverse with
    | last :: before => insertInline before.reverse last node entries
    | [] => none) []

def arrayOf (value : TextReader Node) : TextReader Node := do
  char '['
  let items ← separated0 (char ',') (gap *> value <* gap)
  unless items.isEmpty do discard (optional (char ','))
  gap
  char ']'
  return .array items

def inlineTable (value : TextReader Node) : TextReader Node := do
  char '\x7b'
  let pairs ← separated0 (char ',') do
    let path ← key
    char '='
    blanks
    let node ← value
    blanks
    return (path, node)
  blanks
  char '\x7d'
  match inlineTableOf pairs with
  | some entries => return .inlineTable .stated entries
  | none => failure

def number : TextReader Node :=
  (dateTime *> pure .dateTime) <|> (Node.float <$> decimalFloat) <|>
    (Node.float <$> specialFloat) <|> (Node.integer <$> integer)

/-- A value in which arrays and tables are nested at most `depth` deep. -/
def value (depth : Nat) : TextReader Node := do
  match ← peek, depth with
  | some '"', _ | some '\'', _ => Node.text <$> textValue
  | some '[', inner + 1 => arrayOf (value inner)
  | some '\x7b', inner + 1 => inlineTable (value inner)
  | some '[', 0 | some '\x7b', 0 => failure
  | some 't', _ => string "true" *> pure (.boolean true)
  | some 'f', _ => string "false" *> pure (.boolean false)
  | _, _ => number

end RowEngine.Toml
