/-!
# Results with a trace

A computation that may fail and that leaves a trace of what it did, in order. The trace is kept when
the computation fails: it then ends where the failure happened.
-/

namespace RowEngine

structure Traced (ε ω α : Type) where
  result : Except ε α
  trace : List ω

namespace Traced

variable {ε ω α β : Type}

def ok (a : α) : Traced ε ω α := ⟨.ok a, []⟩

def error (e : ε) : Traced ε ω α := ⟨.error e, []⟩

def ofExcept (r : Except ε α) : Traced ε ω α := ⟨r, []⟩

/-- Puts something in front of the trace. -/
def after (w : ω) (x : Traced ε ω α) : Traced ε ω α := ⟨x.result, w :: x.trace⟩

def bind (x : Traced ε ω α) (f : α → Traced ε ω β) : Traced ε ω β :=
  match x.result with
  | .ok a =>
    let y := f a
    ⟨y.result, x.trace ++ y.trace⟩
  | .error e => ⟨.error e, x.trace⟩

instance : Monad (Traced ε ω) where
  pure := ok
  bind := bind

@[simp] theorem pure_eq (a : α) : (pure a : Traced ε ω α) = ok a := rfl
@[simp] theorem bind_eq (x : Traced ε ω α) (f : α → Traced ε ω β) : x >>= f = x.bind f := rfl
@[simp] theorem ok_bind (a : α) (f : α → Traced ε ω β) : (ok a).bind f = f a := rfl
@[simp] theorem error_bind (e : ε) (f : α → Traced ε ω β) : (error e).bind f = error e := rfl
@[simp] theorem bind_ok (x : Traced ε ω α) : x.bind ok = x := by
  rcases x with ⟨_ | _, t⟩ <;> simp [bind, ok]

theorem bind_assoc {γ : Type} (x : Traced ε ω α) (f : α → Traced ε ω β) (g : β → Traced ε ω γ) :
    (x.bind f).bind g = x.bind fun a => (f a).bind g := by
  rcases x with ⟨e | a, t⟩
  · rfl
  · rcases hf : f a with ⟨e | b, u⟩ <;> simp [bind, hf]

end Traced

end RowEngine
