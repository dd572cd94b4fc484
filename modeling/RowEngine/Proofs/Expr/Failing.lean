import RowEngine.Proofs.Expr.Refolding
import RowEngine.Proofs.Expr.Results
import RowEngine.Proofs.Failing

/-!
# What conditions fail with

A conjunction fails as its conjuncts do, however it is put together. The conjuncts of a condition
that was built over a schema were built over it too, so on rows that conform to the schema, a
condition that was taken apart and put together again fails only for reasons that lie in the data.
-/

namespace RowEngine

section

variable {α : Type} {P : α → Prop} {x : Except EvalError α}

theorem Returns.failsOnly (h : Returns P x) : FailsOnly (·.isDataDependent = true) x := by
  rintro e rfl
  exact h

theorem Returns.of_eq_ok (h : Returns P x) {a : α} (hx : x = .ok a) : P a := by
  rwa [hx] at h

theorem Safe.gives {x : Evaluation α} (h : Safe P x) : Gives P x :=
  fun _ ha => h.result.of_eq_ok ha

end

namespace Expr

variable {registry : Registry} {schema : Schema} {row : RowView} {D : EvalError → Prop}
  {e l r : Expr} {es : List Expr}

theorem eq_rowConst (h : e.isRowConst = true) : ∃ values, e = rowConst values := by
  cases e with
  | rowConst values => exact ⟨values, rfl⟩
  | _ => cases h

theorem failsOnly_holds (h : FailsOnly D (e.eval schema row).result) :
    FailsOnly D (e.holds schema row).result :=
  .traced_bind h fun _ _ => .ok _

theorem failsOnly_evalAnd {x y : Evaluation Value} (hx : FailsOnly D x.result)
    (hy : FailsOnly D y.result) : FailsOnly D (evalAnd x y).result := by
  refine .traced_bind hx fun a _ => ?_
  split
  · exact .ok a
  · exact .traced_bind hy fun _ _ => .ok _

theorem failsOnly_foldl_evalAnd {x : Evaluation Value} (hx : FailsOnly D x.result)
    (hes : ∀ c ∈ es, FailsOnly D (c.eval schema row).result) :
    FailsOnly D (es.foldl (fun x c => evalAnd x (c.eval schema row)) x).result := by
  induction es generalizing x with
  | nil => exact hx
  | cons c rest ih =>
    obtain ⟨hc, hrest⟩ := List.forall_mem_cons.mp hes
    exact ih (failsOnly_evalAnd hx hc) hrest

/-- Conditions that are joined fail as they do. -/
theorem failsOnly_conjoin (h : conjoin es = .ok (some e))
    (hes : ∀ c ∈ es, FailsOnly D (c.eval schema row).result) :
    FailsOnly D (e.eval schema row).result := by
  cases es with
  | nil => cases h
  | cons first rest =>
    obtain ⟨hfirst, hrest⟩ := List.forall_mem_cons.mp hes
    rw [eval_foldlM_and (conjoin_cons.mp h)]
    exact failsOnly_foldl_evalAnd hfirst hrest

/-- The sides of an `AND` are no row constants, so only the condition as a whole could be one. -/
theorem Built.of_mem_conjuncts (h : e.Built registry schema) (hscalar : e.isRowConst = false)
    {c : Expr} (hc : c ∈ e.conjuncts) : c.Built registry schema ∧ c.isRowConst = false := by
  fun_induction conjuncts e with
  | case1 left right type ihl ihr =>
    obtain ⟨hleft, hright, hmade⟩ := h.of_binary
    obtain ⟨_, -, hlscalar, hrscalar, -⟩ := binaryOf_eq_ok hmade
    rcases List.mem_append.mp hc with hc | hc
    · exact ihl hleft hlscalar hc
    · exact ihr hright hrscalar hc
  | case2 e =>
    obtain rfl := List.mem_singleton.mp hc
    exact ⟨h, hscalar⟩

end Expr

end RowEngine
