import Mathlib.Data.List.Forall2
import RowEngine.Function.Builtin
import RowEngine.Proofs.Value.Typing

/-!
# Built-in functions keep their types

On the arguments that it declares, a built-in function gives a value of the type that it declares,
or it fails for a reason that lies in the data. It never finds an argument that it does not expect.
-/

namespace RowEngine

namespace ScalarFunction

/-- The arguments that a function may be called with: one for each parameter, of its type or null,
and not null where the function is not called on nulls. -/
def Takes (f : ScalarFunction) (args : List Value) : Prop :=
  List.Forall₂ Value.Fits args f.params ∧
    (f.nullPolicy = .returnsNull → ∀ v ∈ args, v.isNull = false)

/-- A function that returns what it declares and blames nothing but the data. -/
def KeepsType (f : ScalarFunction) : Prop :=
  ∀ args, f.Takes args → Returns (·.Fits f.returns) (f.body args)

end ScalarFunction

namespace Builtin

/-- The failures by which a built-in function reports arguments that it does not expect. -/
inductive IsReport : EvalError → Prop where
  | argument (name type : String) (i : Nat) (arg : Option Value) :
      IsReport (unexpected name type i arg)
  | arguments (args : List Value) :
      IsReport (failed "abs" s!"unexpected arguments {Value.inspectList args}")

theorem not_isReport_overflow (op : String) : ¬ IsReport (.arithmeticOverflow op) := by
  intro h
  cases h

/-- The text of a negative root does not begin as a report on an argument does. -/
theorem not_isReport_sqrt :
    ¬ IsReport (failed "sqrt" "cannot take the square root of a negative number") := by
  generalize hreason : "cannot take the square root of a negative number" = reason
  generalize he : failed "sqrt" reason = e
  intro h
  cases h with
  | argument name type i arg =>
    have hsame := (EvalError.functionFailed.inj he).2
    rw [← hreason] at hsame
    have hhead := congrArg (fun s : String => s.toList.head?) hsame
    have hletter : (toString "expected ").toList.head? = some 'e' := rfl
    simp [hletter] at hhead
  | arguments args =>
    have hname := (EvalError.functionFailed.inj he).1
    simp at hname

/-- A result of a type, or a failure that lies in the data and reports no argument. -/
def Behaves (t : DataType) (x : Except EvalError Value) : Prop :=
  Returns (·.Fits t) x ∧ ∀ e, x = .error e → ¬ IsReport e

theorem behaves_ok {t : DataType} {v : Value} (h : v.Fits t) : Behaves t (.ok v) := by
  refine ⟨h, ?_⟩
  intro e he
  cases he

theorem behaves_overflow (t : DataType) (op : String) :
    Behaves t (.error (.arithmeticOverflow op)) := by
  refine ⟨rfl, ?_⟩
  intro e he
  rw [← Except.error.inj he]
  exact not_isReport_overflow op

theorem behaves_absInteger (n : Int64) : Behaves .integer (absInteger [.integer n]) := by
  simp only [absInteger]
  split
  · exact behaves_overflow _ _
  · exact behaves_ok (Value.fits_type (.integer _))

theorem behaves_absFloat (x : Binary64) : Behaves .float (absFloat [.float x]) :=
  behaves_ok (Value.fits_type (.float x.abs))

theorem behaves_round (x : Binary64) : Behaves .float (round [.float x]) :=
  behaves_ok (Value.fits_type (.float x.round))

theorem behaves_upper (s : String) : Behaves .text (upper [.text s]) :=
  behaves_ok (Value.fits_type (.text (upperCase s)))

theorem behaves_lower (s : String) : Behaves .text (lower [.text s]) :=
  behaves_ok (Value.fits_type (.text (lowerCase s)))

theorem behaves_length (s : String) : Behaves .integer (length [.text s]) := by
  have hbody : length [.text s] = if s.length ≤ Int64.maxValue.toInt
      then .ok (.integer (Int64.ofNat s.length)) else .error (.arithmeticOverflow "length") := rfl
  rw [hbody]
  split
  · exact behaves_ok (Value.fits_type (.integer _))
  · exact behaves_overflow _ _

theorem behaves_sqrt (x : Binary64) : Behaves .float (sqrt [.float x]) := by
  have hbody : sqrt [.float x] = if x.rank < 0
      then .error (failed "sqrt" "cannot take the square root of a negative number")
      else .ok (.float x.sqrt) := rfl
  rw [hbody]
  split
  · refine ⟨rfl, ?_⟩
    intro e he
    rw [← Except.error.inj he]
    exact not_isReport_sqrt
  · exact behaves_ok (Value.fits_type (.float _))

/-- A function that behaves on the arguments that it may be called with. -/
def Sound (f : ScalarFunction) : Prop := ∀ args, f.Takes args → Behaves f.returns (f.body args)

/-- The only argument of a function that is not called on nulls. -/
theorem arg_of_takes {t : DataType} {args : List Value} (h : List.Forall₂ Value.Fits args [t])
    (hnull : ∀ v ∈ args, v.isNull = false) : ∃ v, args = [v] ∧ v.type = t := by
  cases h with
  | cons hv hrest =>
    cases hrest
    exact ⟨_, rfl, hv.type_eq (hnull _ (by simp))⟩

section

variable {name : String} {returns : DataType} {place : Nat}
  {body : List Value → Except EvalError Value}

theorem sound_of_integer (h : ∀ n, Behaves returns (body [.integer n])) :
    Sound ⟨name, [.integer], returns, .returnsNull, body, place⟩ := by
  rintro args ⟨hfits, hnull⟩
  obtain ⟨v, rfl, htype⟩ := arg_of_takes hfits (hnull rfl)
  obtain ⟨n, rfl⟩ := Value.eq_integer htype
  exact h n

theorem sound_of_float (h : ∀ x, Behaves returns (body [.float x])) :
    Sound ⟨name, [.float], returns, .returnsNull, body, place⟩ := by
  rintro args ⟨hfits, hnull⟩
  obtain ⟨v, rfl, htype⟩ := arg_of_takes hfits (hnull rfl)
  obtain ⟨x, rfl⟩ := Value.eq_float htype
  exact h x

theorem sound_of_text (h : ∀ s, Behaves returns (body [.text s])) :
    Sound ⟨name, [.text], returns, .returnsNull, body, place⟩ := by
  rintro args ⟨hfits, hnull⟩
  obtain ⟨v, rfl, htype⟩ := arg_of_takes hfits (hnull rfl)
  obtain ⟨s, rfl⟩ := Value.eq_text htype
  exact h s

theorem sound_concat : Sound ⟨name, [.text, .text], .text, .returnsNull, concat, place⟩ := by
  rintro args ⟨hfits, hnull⟩
  have hnull := hnull rfl
  cases hfits with
  | cons hv hrest =>
    obtain ⟨w, rfl, htype⟩ := arg_of_takes hrest fun v hv => hnull v (by simp [hv])
    obtain ⟨s, rfl⟩ := Value.eq_text (hv.type_eq (hnull _ (by simp)))
    obtain ⟨t, rfl⟩ := Value.eq_text htype
    exact behaves_ok (Value.fits_type (.text _))

/-- Both arguments are of one type, so whichever is returned fits it. -/
theorem sound_coalesce (t : DataType) : Sound ⟨name, [t, t], t, .called, coalesce, place⟩ := by
  rintro args ⟨hfits, -⟩
  apply behaves_ok
  cases hfind : args.find? fun v => !v.isNull with
  | none => exact Value.fits_null t
  | some v =>
    have hv := List.mem_of_find?_eq_some hfind
    cases hfits with
    | cons hfirst hrest =>
      cases hrest with
      | cons hsecond hrest =>
        cases hrest
        rcases List.mem_cons.mp hv with rfl | hv
        · exact hfirst
        · obtain rfl := List.mem_singleton.mp hv
          exact hsecond

end

/-- What holds of all functions of a registry goes on holding if the new one has it too. -/
theorem forall_register {P : ScalarFunction → Prop} {r : Registry} {key : String}
    {params : List DataType} {returns : DataType} {policy : NullPolicy}
    {body : List Value → Except EvalError Value} (hr : ∀ f ∈ r.functions, P f)
    (hf : ∀ name place, P ⟨name, params, returns, policy, body, place⟩) :
    ∀ f ∈ (r.register key params returns policy body).functions, P f := by
  intro f hmem
  rcases List.mem_append.mp hmem with hmem | hmem
  · exact hr f hmem
  · obtain rfl := List.mem_singleton.mp hmem
    exact hf _ _

theorem forall_registerAll {P : ScalarFunction → Prop} {r : Registry} (types : List DataType)
    (hr : ∀ f ∈ r.functions, P f)
    (hf : ∀ name place t, P ⟨name, [t, t], t, .called, coalesce, place⟩) :
    ∀ f ∈ (types.foldl (fun r t => r.register "coalesce" [t, t] t .called coalesce) r).functions,
      P f := by
  induction types generalizing r with
  | nil => exact hr
  | cons t types ih => exact ih (forall_register hr fun name place => hf name place t)

/-- All built-in functions keep their types and report no argument. -/
theorem sound_of_mem : ∀ f ∈ registry.functions, Sound f := by
  unfold registry
  dsimp only
  refine forall_registerAll DataType.all ?_ fun _ _ t => sound_coalesce t
  apply forall_register _ fun _ _ => sound_of_float behaves_sqrt
  apply forall_register _ fun _ _ => sound_of_float behaves_round
  apply forall_register _ fun _ _ => sound_concat
  apply forall_register _ fun _ _ => sound_of_text behaves_length
  apply forall_register _ fun _ _ => sound_of_text behaves_lower
  apply forall_register _ fun _ _ => sound_of_text behaves_upper
  apply forall_register _ fun _ _ => sound_of_float behaves_absFloat
  apply forall_register _ fun _ _ => sound_of_integer behaves_absInteger
  simp [Registry.empty]

end Builtin

end RowEngine
