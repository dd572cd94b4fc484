import RowEngine.Text.CaseFold

/-!
# Sequences of terms

The regular expressions that are sequences: of characters and dots, each of them alone or repeated,
and of anchors.
-/

namespace RowEngine.Regex

/-- How a regular expression is read: whether its dot stands for line breaks too, and whether its
characters stand for those that differ from them in case. -/
structure Mode where
  dotAll : Bool
  ignoreCase : Bool
  deriving DecidableEq, Repr

inductive Atom where
  | literal (c : Char)
  | dot
  deriving DecidableEq, Repr

def Atom.reads (mode : Mode) : Atom → Char → Bool
  | literal c, d => if mode.ignoreCase then foldCase c == foldCase d else c == d
  | dot, d => mode.dotAll || d != '\n'

inductive Term where
  | one (a : Atom)
  | star (a : Atom)
  | start
  | stop
  deriving DecidableEq, Repr

def Atom.spell (escape : String → String) : Atom → List Char
  | literal c => (escape (String.singleton c)).toList
  | dot => ['.']

def Term.spell (escape : String → String) : Term → List Char
  | one a => a.spell escape
  | star a => a.spell escape ++ ['*']
  | start => ['^']
  | stop => ['$']

/-- The flag that makes the dot stand for line breaks too stands in front of the terms. -/
def spell (escape : String → String) (dotAll : Bool) (terms : List Term) : String :=
  String.ofList ((if dotAll then "(?s)".toList else []) ++ terms.flatMap (Term.spell escape))

end RowEngine.Regex
