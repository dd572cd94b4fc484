import RowEngine.Expr.Eval
import RowEngine.Proofs.Expr.Build
import RowEngine.Proofs.Like.Language
import RowEngine.Proofs.Regex.Plain

/-!
# Evaluation of LIKE

A LIKE expression carries the regular expression that an engine compiled for its pattern, and is
true just on the texts of the pattern, if the engine does what its documentation says.
-/

namespace RowEngine.Expr

open Regex

variable {engine : Engine} {arg : Expr} {schema : Schema} {row : RowView} {s pattern : String}
  {regex : Regex} {negated ignoreCase : Bool}

/-- A row constant has no value. -/
theorem isRowConst_of_result_eq_ok {v : Value} (h : (arg.eval schema row).result = .ok v) :
    arg.isRowConst = false := by
  cases arg with
  | rowConst => cases h
  | _ => rfl

theorem result_eval_like (hs : (arg.eval schema row).result = .ok (.text s)) (pattern : String)
    (regex : Regex) (negated : Bool) : ((like arg pattern regex negated).eval schema row).result =
      .ok (.boolean (regex.isMatch s != negated)) := by
  simp [eval, Traced.bind, hs]

/-- If the regular expression of a pattern compiles, the LIKE expression can be built, and on a text
it is true (or false, if it is negated) just when the pattern denotes the text, and false (or true)
just when it does not. -/
theorem like_matches_language (hengine : engine.Documented)
    (hcompile : engine.compile (Like.regexOf engine.escape pattern) ignoreCase = .ok regex)
    (htype : arg.type = .text ∨ arg.type = .null)
    (hs : (arg.eval schema row).result = .ok (.text s)) (negated : Bool) :
    ∃ e, likeOf engine arg pattern negated ignoreCase = .ok e ∧
      ((e.eval schema row).result = .ok (.boolean !negated) ↔
        Like.Denotes (Like.SameChar ignoreCase) pattern.toList s.toList) ∧
      ((e.eval schema row).result = .ok (.boolean negated) ↔
        ¬ Like.Denotes (Like.SameChar ignoreCase) pattern.toList s.toList) := by
  refine ⟨like arg pattern regex negated, ?_, ?_⟩
  · exact likeOf_eq_ok.mpr ⟨htype, isRowConst_of_result_eq_ok hs, regex, hcompile, rfl⟩
  · rw [result_eval_like hs, ← Like.isMatch_iff_denotes hengine hcompile]
    constructor <;> cases regex.isMatch s <;> cases negated <;> simp

theorem compile_regexOf (hsize : tooLarge ⟨true, ignoreCase⟩
      (.start :: (Like.termsOf pattern.toList ++ [.stop])) = false) :
    Engine.plain.compile (Like.regexOf Engine.plain.escape pattern) ignoreCase =
      .ok (ofTerms ⟨true, ignoreCase⟩ (.start :: (Like.termsOf pattern.toList ++ [.stop]))) := by
  rw [Like.regexOf_eq_spell]
  exact compile_spell.mpr ⟨hsize, rfl⟩

/-- A pattern with an escaped letter, a run, an escaped wildcard and a backslash at its end, and a
text with line breaks. -/
theorem like_matches_language_escapes :
    let pattern := "\\q%.\\%_\\"
    let text := "q\n\n.%é\\"
    ∃ e, likeOf Engine.plain (const (.text text)) pattern false false = .ok e ∧
      (e.eval ⟨[]⟩ (Row.view [])).result = .ok (.boolean true) := by
  intro pattern text
  have hsize : tooLarge ⟨true, false⟩ (.start :: (Like.termsOf pattern.toList ++ [.stop])) =
      false := by decide +kernel
  have hpattern : pattern.toList = ['\\', 'q', '%', '.', '\\', '%', '_', '\\'] := by decide
  have htext : text.toList = ['q', '\n', '\n', '.', '%', 'é', '\\'] := by decide
  have hdenotes : Like.Denotes (Like.SameChar false) pattern.toList text.toList := by
    rw [hpattern, htext]
    refine .escaped rfl (.anyRun ['\n', '\n'] (.itself (by decide) rfl (.escaped rfl ?_)))
    exact .anyChar 'é' (.lastBackslash rfl)
  have hs : ((const (.text text)).eval ⟨[]⟩ (Row.view [])).result = .ok (.text text) := rfl
  obtain ⟨e, he, htrue, -⟩ :=
    like_matches_language documented_plain (compile_regexOf hsize) (.inl rfl) hs false
  exact ⟨e, he, htrue.mpr hdenotes⟩

end RowEngine.Expr
