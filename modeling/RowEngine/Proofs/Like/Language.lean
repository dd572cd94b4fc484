import RowEngine.Like.Pattern
import RowEngine.Proofs.Regex.Meaning

/-!
# The texts of LIKE patterns

A pattern denotes the texts that can be split so that each piece is what an item of the pattern
stands for. Its regular expression is spelled from a term for each item, between two anchors, and
so it matches the same texts, whichever engine compiles it.
-/

namespace RowEngine.Like

open Regex

/-- The texts of a pattern, which is read from its front. What stands for itself in the pattern
stands for all characters that are the same. -/
inductive Denotes (same : Char → Char → Prop) : List Char → List Char → Prop where
  | done : Denotes same [] []
  | anyRun {pattern rest : List Char} (run : List Char) (h : Denotes same pattern rest) :
      Denotes same ('%' :: pattern) (run ++ rest)
  | anyChar {pattern rest : List Char} (c : Char) (h : Denotes same pattern rest) :
      Denotes same ('_' :: pattern) (c :: rest)
  | escaped {pattern rest : List Char} {c d : Char} (hsame : same c d)
      (h : Denotes same pattern rest) : Denotes same ('\\' :: c :: pattern) (d :: rest)
  | lastBackslash {d : Char} (hsame : same '\\' d) : Denotes same ['\\'] [d]
  | itself {pattern rest : List Char} {c d : Char} (hc : c ≠ '%' ∧ c ≠ '_' ∧ c ≠ '\\')
      (hsame : same c d) (h : Denotes same pattern rest) : Denotes same (c :: pattern) (d :: rest)

/-- Characters that a pattern takes for the same: those that fold alike where case is ignored. -/
def SameChar (ignoreCase : Bool) (c d : Char) : Prop :=
  if ignoreCase then foldCase c = foldCase d else c = d

variable {ignoreCase : Bool} {pattern text : List Char}

theorem reads_literal_iff {c d : Char} :
    (Atom.literal c).reads ⟨true, ignoreCase⟩ d = true ↔ SameChar ignoreCase c d := by
  cases ignoreCase <;> simp [Atom.reads, SameChar]

def termsOf : List Char → List Term
  | [] => []
  | '%' :: rest => .star .dot :: termsOf rest
  | '_' :: rest => .one .dot :: termsOf rest
  | '\\' :: c :: rest => .one (.literal c) :: termsOf rest
  | c :: rest => .one (.literal c) :: termsOf rest

theorem termsOf_itself {c : Char} (hc : c ≠ '%' ∧ c ≠ '_' ∧ c ≠ '\\') (pattern : List Char) :
    termsOf (c :: pattern) = .one (.literal c) :: termsOf pattern := by
  obtain ⟨hrun, hany, hescape⟩ := hc
  rw [termsOf] <;> simp_all

/-- The translation spells a term for each item of the pattern. -/
theorem regexBody_eq_flatMap (escape : String → String) (pattern : List Char) :
    regexBody escape pattern = (termsOf pattern).flatMap (Term.spell escape) := by
  fun_induction regexBody escape pattern with
  | case1 => rfl
  | case2 rest ih => rw [ih]; rfl
  | case3 rest ih => rw [ih]; rfl
  | case4 => exact (List.append_nil _).symm
  | case5 c rest ih => rw [ih]; rfl
  | case6 c rest hrun hany hlast hescape ih =>
    rw [ih, termsOf_itself ⟨hrun, hany, fun h => ?_⟩]
    · rfl
    · cases rest with
      | nil => exact hlast h rfl
      | cons d rest => exact hescape d rest h rfl

/-- What a pattern is translated to is the spelling of some terms, anchored on both sides. -/
theorem regexOf_eq_spell (escape : String → String) (pattern : String) :
    regexOf escape pattern =
      spell escape true (.start :: (termsOf pattern.toList ++ [.stop])) := by
  unfold regexOf spell
  rw [regexBody_eq_flatMap, List.flatMap_cons, List.flatMap_append]
  rfl

/-- A text of the language can be read up to its end. -/
theorem reads_of_denotes (h : Denotes (SameChar ignoreCase) pattern text) (before : List Char) :
    Reads ⟨true, ignoreCase⟩ (termsOf pattern ++ [.stop]) before text := by
  induction h generalizing before with
  | done => exact ⟨rfl, trivial⟩
  | anyRun run _ ih => exact ⟨run, _, rfl, fun _ _ => rfl, ih _⟩
  | anyChar c _ ih => exact ⟨c, _, rfl, rfl, ih _⟩
  | escaped hsame _ ih => exact ⟨_, _, rfl, reads_literal_iff.mpr hsame, ih _⟩
  | lastBackslash hsame => exact ⟨_, _, rfl, reads_literal_iff.mpr hsame, rfl, trivial⟩
  | itself hc hsame _ ih =>
    rw [termsOf_itself hc]
    exact ⟨_, _, rfl, reads_literal_iff.mpr hsame, ih _⟩

/-- Nothing else can be read, since the last of the terms is the end of the text. -/
theorem denotes_of_reads {before : List Char}
    (h : Reads ⟨true, ignoreCase⟩ (termsOf pattern ++ [.stop]) before text) :
    Denotes (SameChar ignoreCase) pattern text := by
  fun_induction termsOf pattern generalizing before text with
  | case1 =>
    obtain ⟨rfl, -⟩ := h
    exact .done
  | case2 pattern ih =>
    obtain ⟨run, rest, rfl, -, h⟩ := h
    exact .anyRun run (ih h)
  | case3 pattern ih =>
    obtain ⟨c, rest, rfl, -, h⟩ := h
    exact .anyChar c (ih h)
  | case4 c pattern ih =>
    obtain ⟨d, rest, rfl, hsame, h⟩ := h
    exact .escaped (reads_literal_iff.mp hsame) (ih h)
  | case5 c pattern hrun hany hescape ih =>
    obtain ⟨d, rest, rfl, hsame, h⟩ := h
    by_cases hlast : c = '\\'
    · subst hlast
      cases pattern with
      | nil =>
        obtain ⟨rfl, -⟩ := h
        exact .lastBackslash (reads_literal_iff.mp hsame)
      | cons c' pattern => exact (hescape c' pattern rfl rfl).elim
    · exact .itself ⟨hrun, hany, hlast⟩ (reads_literal_iff.mp hsame) (ih h)

/-- What an engine compiles for a pattern matches the texts that the pattern denotes. -/
theorem isMatch_iff_denotes {engine : Engine} (hengine : engine.Documented) {pattern : String}
    {regex : Regex} (h : engine.compile (regexOf engine.escape pattern) ignoreCase = .ok regex)
    (text : String) : regex.isMatch text = true ↔
      Denotes (SameChar ignoreCase) pattern.toList text.toList := by
  rw [regexOf_eq_spell] at h
  rw [hengine _ _ _ _ h]
  constructor
  · rintro ⟨before, after, htext, rfl, hreads⟩
    rw [htext, List.nil_append]
    exact denotes_of_reads hreads
  · intro hdenotes
    exact ⟨[], _, rfl, rfl, reads_of_denotes hdenotes []⟩

end RowEngine.Like
