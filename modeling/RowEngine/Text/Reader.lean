/-!
# Reading from the front of a text

A reader takes characters from the front of a text and answers with a value, or fails and takes
nothing. Alternatives are tried from the start of the text that they were given.
-/

namespace RowEngine

abbrev TextReader (α : Type) := StateT (List Char) Option α

namespace TextReader

variable {α β : Type}

def run? (p : TextReader α) (cs : List Char) : Option (α × List Char) := StateT.run p cs

def whole? (p : TextReader α) (cs : List Char) : Option α :=
  match p.run? cs with
  | some (a, []) => some a
  | _ => none

def satisfying (test : Char → Bool) : TextReader Char := fun cs =>
  match cs with
  | c :: rest => if test c then some (c, rest) else none
  | [] => none

def char (c : Char) : TextReader Unit := discard (satisfying (· == c))

def string (s : String) : TextReader Unit := s.toList.forM char

def peek : TextReader (Option Char) := fun cs => some (cs.head?, cs)

def atEnd : TextReader Unit := fun cs => if cs.isEmpty then some ((), cs) else none

/-- The longest run of characters that pass a test. -/
def takeWhile (test : Char → Bool) : TextReader (List Char) := fun cs =>
  some (cs.takeWhile test, cs.dropWhile test)

def takeWhile1 (test : Char → Bool) : TextReader (List Char) := do
  let run ← takeWhile test
  if run.isEmpty then failure else return run

def exactly (n : Nat) (test : Char → Bool) : TextReader (List Char) :=
  (List.replicate n ()).mapM fun _ => satisfying test

/-- Values one after the other, as many as there are but no more than characters in `room`. -/
def upTo (room : List Char) (p : TextReader α) : TextReader (List α) := fun cs =>
  match room with
  | [] => some ([], cs)
  | _ :: room =>
    match p cs with
    | some (a, rest) => ((a :: ·) <$> upTo room p) rest
    | none => some ([], cs)

/-- As many values as there are. A reader used here takes something whenever it succeeds, so there
are no more of them than characters. -/
def many (p : TextReader α) : TextReader (List α) := fun cs => upTo cs p cs

def separated (separator : TextReader β) (p : TextReader α) : TextReader (List α) := do
  let first ← p
  let rest ← many (separator *> p)
  return first :: rest

/-- Any number of values with separators between them; none where no first value can be read. -/
def separated0 (separator : TextReader β) (p : TextReader α) : TextReader (List α) :=
  separated separator p <|> pure []

end TextReader

end RowEngine
