import RowEngine.Regex.Basic
import RowEngine.Regex.Size

/-!
# An engine for sequences of terms

The engine reads only regular expressions that are sequences of terms. It takes one term after the
other and keeps the places of the text up to which the terms so far can be read.
-/

namespace RowEngine.Regex

/-- The characters that mean something else than themselves in a regular expression. -/
def metaCharacters : List Char := "\\.+*?()|[]\x7b\x7d^$#&-~".toList

def escapeChar (c : Char) : List Char := if c ∈ metaCharacters then ['\\', c] else [c]

inductive Token where
  | atom (a : Atom)
  | repeated
  | start
  | stop
  deriving DecidableEq, Repr

def tokens? : List Char → Option (List Token)
  | [] => some []
  | '^' :: rest => (tokens? rest).map (.start :: ·)
  | '$' :: rest => (tokens? rest).map (.stop :: ·)
  | '*' :: rest => (tokens? rest).map (.repeated :: ·)
  | '.' :: rest => (tokens? rest).map (.atom .dot :: ·)
  | '\\' :: c :: rest =>
    if c ∈ metaCharacters then (tokens? rest).map (.atom (.literal c) :: ·) else none
  | c :: rest =>
    if c ∈ metaCharacters then none else (tokens? rest).map (.atom (.literal c) :: ·)

def terms? : List Token → Option (List Term)
  | [] => some []
  | .start :: rest => (terms? rest).map (.start :: ·)
  | .stop :: rest => (terms? rest).map (.stop :: ·)
  | .atom a :: .repeated :: rest => (terms? rest).map (.star a :: ·)
  | .atom a :: rest => (terms? rest).map (.one a :: ·)
  | .repeated :: _ => none

/-- Whether the flag for the dot stands at the front, and what comes after it. -/
def readFlag : List Char → Bool × List Char
  | '(' :: '?' :: 's' :: ')' :: rest => (true, rest)
  | text => (false, text)

def read? (regex : List Char) : Option (Bool × List Term) :=
  let (dotAll, body) := readFlag regex
  (tokens? body).bind fun tokens => (terms? tokens).map (dotAll, ·)

/-- A place of a text: the number of characters before it, and those after it. -/
@[ext]
structure Place where
  before : Nat
  after : List Char

/-- A place and all those after it. -/
def placesFrom (i : Nat) : List Char → List Place
  | [] => [⟨i, []⟩]
  | c :: text => ⟨i, c :: text⟩ :: placesFrom (i + 1) text

def Place.next? (reads : Char → Bool) : Place → Option Place
  | ⟨i, c :: rest⟩ => if reads c then some ⟨i + 1, rest⟩ else none
  | ⟨_, []⟩ => none

def isAt (i : Nat) (places : List Place) : Bool := places.head?.any (·.before == i)

/-- The places that are reached from those given, in their order. All lie at or after place `i`,
which is reached itself if `carried` is set. -/
def spread (reads : Char → Bool) (carried : Bool) (i : Nat) : List Char → List Place → List Place
  | [], places => if carried || isAt i places then [⟨i, []⟩] else []
  | c :: text, places =>
    let reached := carried || isAt i places
    let later := if isAt i places then places.tail else places
    let rest := spread reads (reached && reads c) (i + 1) text later
    if reached then ⟨i, c :: text⟩ :: rest else rest

def advance (mode : Mode) (term : Term) (places : List Place) : List Place :=
  match term with
  | .one a => places.filterMap (Place.next? (a.reads mode))
  | .star a =>
    match places with
    | [] => []
    | p :: later => spread (a.reads mode) false p.before p.after (p :: later)
  | .start => places.filter (·.before == 0)
  | .stop => places.filter (·.after.isEmpty)

def ofTerms (mode : Mode) (terms : List Term) : Regex where
  isMatch text :=
    !(terms.foldl (fun places term => advance mode term places) (placesFrom 0 text.toList)).isEmpty

def escape (text : String) : String := String.ofList (text.toList.flatMap escapeChar)

def compile (regex : String) (ignoreCase : Bool) : Except String Regex :=
  match read? regex.toList with
  | none => .error "regex parse error"
  | some (dotAll, terms) =>
    if tooLarge ⟨dotAll, ignoreCase⟩ terms then
      .error s!"Compiled regex exceeds size limit of {maxSize} bytes."
    else .ok (ofTerms ⟨dotAll, ignoreCase⟩ terms)

def Engine.plain : Engine := ⟨Regex.escape, Regex.compile⟩

end RowEngine.Regex
