import RowEngine.Proofs.Outcome

/-!
# Computations that fail in known ways

What is known of all failures of the parts of a computation is known of its own failures, because a
failure is passed on as it is. The values that the parts give do not come into it, except that the
later parts only run on those.
-/

namespace RowEngine

variable {ε ω α β : Type} {Q R : ε → Prop}

/-- Every failure of a computation has a property. -/
def FailsOnly (Q : ε → Prop) (x : Except ε α) : Prop := ∀ e, x = .error e → Q e

namespace FailsOnly

theorem ok (a : α) : FailsOnly Q (.ok a : Except ε α) := by
  rintro e ⟨⟩

theorem error {e : ε} (h : Q e) : FailsOnly Q (.error e : Except ε α) := by
  rintro _ ⟨⟩
  exact h

theorem mono {x : Except ε α} (hx : FailsOnly Q x) (h : ∀ e, Q e → R e) : FailsOnly R x :=
  fun e he => h e (hx e he)

/-- What follows need only be looked at for the values that come of the first part. -/
theorem bind {x : Except ε α} {f : α → Except ε β} (hx : FailsOnly Q x)
    (hf : ∀ a, x = .ok a → FailsOnly Q (f a)) : FailsOnly Q (x >>= f) := by
  cases x with
  | error e => exact error (hx e rfl)
  | ok a => exact hf a rfl

theorem map {x : Except ε α} (hx : FailsOnly Q x) (f : α → β) : FailsOnly Q (x.map f) := by
  cases x with
  | error e => exact error (hx e rfl)
  | ok a => exact ok (f a)

theorem mapM {f : α → Except ε β} {as : List α} (h : ∀ a ∈ as, FailsOnly Q (f a)) :
    FailsOnly Q (as.mapM f) := by
  induction as with
  | nil => exact ok []
  | cons a as ih =>
    rw [List.forall_mem_cons] at h
    rw [List.mapM_cons]
    exact h.1.bind fun _ _ => (ih h.2).bind fun _ _ => ok _

theorem forM {f : α → Except ε Unit} {as : List α} (h : ∀ a ∈ as, FailsOnly Q (f a)) :
    FailsOnly Q (as.forM f) := by
  induction as with
  | nil => exact ok ()
  | cons a as ih =>
    rw [List.forall_mem_cons] at h
    exact h.1.bind fun _ _ => ih h.2

theorem foldlM {f : β → α → Except ε β} {as : List α} (h : ∀ b, ∀ a ∈ as, FailsOnly Q (f b a))
    (b : β) : FailsOnly Q (as.foldlM f b) := by
  induction as generalizing b with
  | nil => exact ok b
  | cons a as ih =>
    rw [List.foldlM_cons]
    exact (h b a (by simp)).bind fun b' _ => ih (fun c d hd => h c d (by simp [hd])) b'

/-- A computation with a trace fails as its parts do. -/
theorem traced_bind {x : Traced ε ω α} {f : α → Traced ε ω β} (hx : FailsOnly Q x.result)
    (hf : ∀ a, x.result = .ok a → FailsOnly Q (f a).result) : FailsOnly Q (x.bind f).result := by
  rw [Traced.result_bind]
  exact hx.bind hf

end FailsOnly

end RowEngine
