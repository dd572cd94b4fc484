import RowEngine.Regex.Term

/-!
# The size of sequences of terms

A sequence of terms stands for two automata over the bytes of UTF-8 texts, one that reads forward
and one that reads backward, and it is refused if either takes more than `maxSize` bytes. A
character that stands for itself takes a state for each of its bytes. One of several characters
takes a small automaton of its own, whose states are shared where the byte sequences agree: forward
where they end alike, backward where they begin alike.
-/

namespace RowEngine.Regex

/-- The bytes of some characters, a range for each place. -/
abbrev Form := List (Nat × Nat)

def formOf (c : Char) : Form := (String.utf8EncodeChar c).map fun b => (b.toNat, b.toNat)

/-- Puts a form in front of others. It becomes one with the first where only the last byte differs
and the two ranges of it meet. -/
def joinForm (form : Form) : List Form → List Form
  | [] => [form]
  | next :: rest =>
    match form.getLast?, next.getLast? with
    | some (low, high), some (low', high') =>
      if form.dropLast = next.dropLast ∧ low' = high + 1 then
        (form.dropLast ++ [(low, high')]) :: rest
      else form :: next :: rest
    | _, _ => form :: next :: rest

def formsOf (cs : List Char) : List Form := cs.foldr (fun c forms => joinForm (formOf c) forms) []

def anyForms (dotAll : Bool) : List Form :=
  let tail : Nat × Nat := (0x80, 0xbf)
  (if dotAll then [[(0x00, 0x7f)]] else [[(0x00, 0x09)], [(0x0b, 0x7f)]]) ++
    [[(0xc2, 0xdf), tail],
      [(0xe0, 0xe0), (0xa0, 0xbf), tail],
      [(0xe1, 0xec), tail, tail],
      [(0xed, 0xed), (0x80, 0x9f), tail],
      [(0xee, 0xef), tail, tail],
      [(0xf0, 0xf0), (0x90, 0xbf), tail, tail],
      [(0xf1, 0xf3), tail, tail, tail],
      [(0xf4, 0xf4), (0x80, 0x8f), tail, tail]]

def stateSize : Nat := 32

/-- A state that reads one of several ranges holds a transition for each. -/
def transitionSize : Nat := 8

/-- A state that reads nothing but chooses among others holds a reference to each. -/
def choiceSize : Nat := 4

def firstRanges (forms : List Form) : List (Nat × Nat) := (forms.filterMap List.head?).eraseDups

/-- What follows a range in the forms that begin with it. -/
def afterRange (forms : List Form) (range : Nat × Nat) : List Form :=
  forms.filterMap fun form =>
    match form with
    | first :: rest => if first = range then some rest else none
    | [] => none

/-- What may follow after up to `depth` bytes have been read, while bytes do follow. -/
def continuations : Nat → List Form → List (List Form)
  | 0, _ => []
  | depth + 1, forms =>
    let ranges := firstRanges forms
    if ranges.isEmpty then []
    else forms :: ranges.flatMap fun range => continuations depth (afterRange forms range)

/-- Forward there is one state for each different continuation, and one after them all. No character
has more than four bytes. -/
def forwardSize (forms : List Form) : Nat :=
  let states := (continuations 4 forms).eraseDups
  states.foldl (fun total s => total + stateSize + transitionSize * (firstRanges s).length)
    stateSize

def beginnings (forms : List Form) : List Form :=
  (forms.flatMap fun form => (List.range form.length).map fun n => form.take (n + 1)).eraseDups

/-- Backward there is one state for each different beginning, one after them all and one that
chooses among the forms. Where all forms are single bytes, one state reads them as it does forward.
-/
def backwardSize (forms : List Form) : Nat :=
  if forms.all fun form => form.all fun range => decide (range.2 < 0x80) then forwardSize forms
  else stateSize * ((beginnings forms).length + 2) + choiceSize * forms.length

structure Size where
  forward : Nat
  backward : Nat
  deriving DecidableEq, Repr

namespace Size

def add (a b : Size) : Size := ⟨a.forward + b.forward, a.backward + b.backward⟩

def ofForms (forms : List Form) : Size := ⟨forwardSize forms, backwardSize forms⟩

/-- A character that stands for itself alone. -/
def ofChar (c : Char) : Size := ⟨stateSize * c.utf8Size, stateSize * c.utf8Size⟩

/-- A start and the match; forward the match is marked at both ends too. -/
def frame : Size := ⟨4 * stateSize, 2 * stateSize⟩

def anchor : Size := ⟨stateSize, stateSize⟩

/-- One more state chooses between another character and what comes next. -/
def choice : Size := ⟨stateSize + 2 * choiceSize, stateSize + 2 * choiceSize⟩

end Size

def Atom.size (mode : Mode) : Atom → Size
  | literal c =>
    if mode.ignoreCase then
      match caseVariants c with
      | [_] => .ofChar c
      | variants => .ofForms (formsOf variants)
    else .ofChar c
  | dot => .ofForms (anyForms mode.dotAll)

def Term.size (mode : Mode) : Term → Size
  | one a => a.size mode
  | star a => (a.size mode).add .choice
  | start | stop => .anchor

def maxSize : Nat := 10485760

def tooLarge (mode : Mode) (terms : List Term) : Bool :=
  let size := terms.foldl (fun total term => total.add (term.size mode)) Size.frame
  decide (maxSize < size.forward) || decide (maxSize < size.backward)

end RowEngine.Regex
