import RowEngine.Regex.Basic
import RowEngine.Regex.Term

/-!
# What sequences of terms mean

Terms are read one after the other, from some place of a text on, and a regular expression matches
the text if there is a place from which all of its terms can be read. This is what the documentation
of an engine says of the terms, of the flags and of escaped characters; nothing else is asked of it.
-/

namespace RowEngine.Regex

def Reads (mode : Mode) : List Term → (before after : List Char) → Prop
  | [], _, _ => True
  | .one a :: terms, before, after =>
    ∃ c rest, after = c :: rest ∧ a.reads mode c = true ∧ Reads mode terms (before ++ [c]) rest
  | .star a :: terms, before, after =>
    ∃ run rest, after = run ++ rest ∧ (∀ c ∈ run, a.reads mode c = true) ∧
      Reads mode terms (before ++ run) rest
  | .start :: terms, before, after => before = [] ∧ Reads mode terms before after
  | .stop :: terms, before, after => after = [] ∧ Reads mode terms before after

def Found (mode : Mode) (terms : List Term) (text : List Char) : Prop :=
  ∃ before after, text = before ++ after ∧ Reads mode terms before after

/-- A sequence of terms that is compiled matches the texts in which the terms are found. -/
def Engine.Documented (engine : Engine) : Prop :=
  ∀ (dotAll ignoreCase : Bool) (terms : List Term) (regex : Regex),
    engine.compile (spell engine.escape dotAll terms) ignoreCase = .ok regex →
      ∀ text, regex.isMatch text = true ↔ Found ⟨dotAll, ignoreCase⟩ terms text.toList

end RowEngine.Regex
