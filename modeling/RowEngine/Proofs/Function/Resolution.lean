import Mathlib.Data.List.Forall2
import Mathlib.Data.List.Induction
import RowEngine.Function.Builtin

/-!
# Which function a call goes to

Functions are registered one after the other. Of those with the name of the call, in any spelling,
the first with exactly the types of the arguments is called, and where there is none the first that
accepts them. What is registered later never takes a call away from a function with exactly these
types, and from one that merely accepts them only for such a function.
-/

namespace RowEngine

/-- An argument of type `actual` may stand for a parameter of type `declared`. -/
def DataType.Admits (declared actual : DataType) : Prop :=
  declared = actual ∨ actual = .null ∨ declared = .float ∧ actual = .integer

theorem DataType.accepts_iff {declared actual : DataType} :
    declared.accepts actual = true ↔ declared.Admits actual := by
  simp [accepts, Admits, or_assoc]

theorem ScalarFunction.acceptsAll_iff {f : ScalarFunction} {types : List DataType} :
    f.acceptsAll types = true ↔ List.Forall₂ DataType.Admits f.params types := by
  simp [acceptsAll, List.forall₂_iff_zip, DataType.accepts_iff]

structure Registration where
  name : String
  params : List DataType
  returns : DataType
  nullPolicy : NullPolicy
  body : List Value → Except EvalError Value

namespace Registration

/-- The function that comes of it after `place` others were registered. -/
def function (g : Registration) (place : Nat) : ScalarFunction :=
  ⟨lowerCase g.name, g.params, g.returns, g.nullPolicy, g.body, place⟩

/-- It has the name, given in lower case, and exactly these types of parameters. -/
structure Matches (key : String) (types : List DataType) (g : Registration) : Prop where
  name : lowerCase g.name = key
  params : g.params = types

/-- It has the name, given in lower case, and arguments of these types may be passed. -/
structure Accepts (key : String) (types : List DataType) (g : Registration) : Prop where
  name : lowerCase g.name = key
  params : List.Forall₂ DataType.Admits g.params types

variable {key : String} {types : List DataType} {g : Registration}

/-- A type admits itself. -/
theorem Matches.accepts (h : g.Matches key types) : g.Accepts key types := by
  refine ⟨h.name, ?_⟩
  rw [h.params]
  exact List.forall₂_same.mpr fun t _ => .inl rfl

theorem matches_iff (place : Nat) : g.Matches key types ↔
    ((g.function place).name == key) = true ∧ ((g.function place).params == types) = true := by
  rw [beq_iff_eq, beq_iff_eq]
  exact ⟨fun h => ⟨h.name, h.params⟩, fun ⟨hname, hparams⟩ => ⟨hname, hparams⟩⟩

theorem accepts_iff (place : Nat) : g.Accepts key types ↔
    ((g.function place).name == key) = true ∧ (g.function place).acceptsAll types = true := by
  rw [beq_iff_eq, ScalarFunction.acceptsAll_iff]
  exact ⟨fun h => ⟨h.name, h.params⟩, fun ⟨hname, hparams⟩ => ⟨hname, hparams⟩⟩

end Registration

structure First (P : Registration → Prop) (gs : List Registration) (i : Nat) (g : Registration) :
    Prop where
  here : gs[i]? = some g
  holds : P g
  before : ∀ j < i, ∀ h, gs[j]? = some h → ¬ P h

namespace First

variable {P : Registration → Prop} {gs : List Registration} {g h : Registration} {i j : Nat}

theorem mem (hg : First P gs i g) : g ∈ gs := List.mem_of_getElem? hg.here

/-- There is only one first. -/
theorem unique (hg : First P gs i g) (hh : First P gs j h) : i = j ∧ g = h := by
  rcases Nat.lt_trichotomy i j with hlt | rfl | hlt
  · exact absurd hg.holds (hh.before i hlt g hg.here)
  · exact ⟨rfl, Option.some.inj (hg.here.symm.trans hh.here)⟩
  · exact absurd hh.holds (hg.before j hlt h hh.here)

/-- What comes first stays first, whatever is registered later. -/
theorem append (hg : First P gs i g) (later : List Registration) : First P (gs ++ later) i g := by
  have hi : i < gs.length := (List.getElem?_eq_some_iff.mp hg.here).1
  refine ⟨by rw [List.getElem?_append_left hi, hg.here], hg.holds, fun j hj h hh => ?_⟩
  rw [List.getElem?_append_left (by omega)] at hh
  exact hg.before j hj h hh

end First

theorem exists_first {P : Registration → Prop} {gs : List Registration} (h : ∃ g ∈ gs, P g) :
    ∃ i g, First P gs i g := by
  induction gs with
  | nil => simp at h
  | cons g rest ih =>
    by_cases hg : P g
    · exact ⟨0, g, rfl, hg, by simp⟩
    · obtain ⟨i, f, hf⟩ := ih (by simpa [hg] using h)
      refine ⟨i + 1, f, hf.here, hf.holds, ?_⟩
      intro j hj k hk
      cases j with
      | zero =>
        obtain rfl := Option.some.inj hk
        exact hg
      | succ j => exact hf.before j (by omega) k hk

namespace Registry

variable {gs later : List Registration} {key name : String} {types : List DataType}
  {f : ScalarFunction} {x : Except Failure ScalarFunction}

def registerAll (gs : List Registration) : Registry :=
  gs.foldl (fun r g => r.register g.name g.params g.returns g.nullPolicy g.body) empty

theorem registerAll_concat (gs : List Registration) (g : Registration) :
    registerAll (gs ++ [g]) =
      (registerAll gs).register g.name g.params g.returns g.nullPolicy g.body := by
  rw [registerAll, List.foldl_concat, registerAll]

/-- A registry holds its functions in the order in which they were registered. -/
theorem functions_registerAll (gs : List Registration) :
    (registerAll gs).functions = gs.mapIdx fun i g => g.function i := by
  induction gs using List.reverseRecOn with
  | nil => rfl
  | append_singleton gs g ih =>
    rw [registerAll_concat, register, ih, List.mapIdx_concat, List.length_mapIdx]
    rfl

theorem getElem?_functions (gs : List Registration) (i : Nat) :
    (registerAll gs).functions[i]? = gs[i]?.map fun g => g.function i := by
  rw [functions_registerAll, List.getElem?_mapIdx]

theorem mem_functions : f ∈ (registerAll gs).functions ↔
    ∃ i, ∃ g : Registration, gs[i]? = some g ∧ g.function i = f := by
  simp [List.mem_iff_getElem?, getElem?_functions]

/-- The case of a name makes no difference. -/
theorem contains_eq_true : (registerAll gs).contains name = true ↔
    ∃ g ∈ gs, lowerCase g.name = lowerCase name := by
  simp only [contains, overloads, Bool.not_eq_true', List.isEmpty_eq_false_iff_exists_mem,
    List.mem_filter, mem_functions, beq_iff_eq]
  constructor
  · rintro ⟨_, ⟨i, g, hg, rfl⟩, hname⟩
    exact ⟨g, List.mem_of_getElem? hg, hname⟩
  · rintro ⟨g, hg, hname⟩
    obtain ⟨i, hi⟩ := List.mem_iff_getElem?.mp hg
    exact ⟨g.function i, ⟨i, g, hi, rfl⟩, hname⟩

theorem overloads_concat (gs : List Registration) (g : Registration) (key : String) :
    (registerAll (gs ++ [g])).overloads key = (registerAll gs).overloads key ++
      if lowerCase g.name = key then [g.function gs.length] else [] := by
  simp only [overloads, functions_registerAll, List.mapIdx_concat, List.filter_append]
  by_cases hname : lowerCase g.name = key
  · simp [Registration.function, hname]
  · simp [Registration.function, hname]

theorem signatures_overloads (gs : List Registration) (key : String) :
    ((registerAll gs).overloads key).map ScalarFunction.signature =
      (gs.filter fun g => lowerCase g.name == key).map fun g => signatureText key g.params := by
  induction gs using List.reverseRecOn with
  | nil => rfl
  | append_singleton gs g ih =>
    rw [overloads_concat, List.map_append, ih, List.filter_append, List.map_append]
    by_cases hname : lowerCase g.name = key
    · simp [Registration.function, ScalarFunction.signature, hname]
    · simp [hname]

section

variable {P : Registration → Prop} (p : ScalarFunction → Bool)

/-- Looking for the first overload with a property is looking for the first registration with the
name and the property. -/
theorem find?_overloads_of_first {i : Nat} {g : Registration}
    (hp : ∀ g i, P g ↔ ((g.function i).name == key) = true ∧ p (g.function i) = true)
    (h : First P gs i g) : ((registerAll gs).overloads key).find? p = some (g.function i) := by
  obtain ⟨hi, rfl⟩ := List.getElem?_eq_some_iff.mp h.here
  simp only [overloads, functions_registerAll, List.find?_filter, List.find?_eq_some_iff_getElem,
    List.length_mapIdx, List.getElem_mapIdx, decide_eq_true_eq, Bool.not_eq_true',
    decide_eq_false_iff_not, ← hp]
  exact ⟨h.holds, i, hi, rfl, fun j hj => h.before j hj _ (List.getElem?_eq_getElem _)⟩

theorem find?_overloads_of_none
    (hp : ∀ g i, P g ↔ ((g.function i).name == key) = true ∧ p (g.function i) = true)
    (h : ∀ g ∈ gs, ¬ P g) : ((registerAll gs).overloads key).find? p = none := by
  simp only [overloads, List.find?_eq_none, List.mem_filter, mem_functions]
  rintro _ ⟨⟨i, g, hg, rfl⟩, hname⟩ hfound
  exact h g (List.mem_of_getElem? hg) ((hp g i).mpr ⟨hname, hfound⟩)

end

/-- What a call with the name `key`, given in lower case, comes to after these registrations. -/
inductive Resolves (gs : List Registration) (key : String) (types : List DataType) :
    Except Failure ScalarFunction → Prop where
  | exact {i : Nat} {g : Registration} (h : First (·.Matches key types) gs i g) :
      Resolves gs key types (.ok (g.function i))
  | accepting {i : Nat} {g : Registration} (hexact : ∀ g ∈ gs, ¬ g.Matches key types)
      (h : First (·.Accepts key types) gs i g) : Resolves gs key types (.ok (g.function i))
  | mismatch (hknown : ∃ g ∈ gs, lowerCase g.name = key) (h : ∀ g ∈ gs, ¬ g.Accepts key types) :
      Resolves gs key types (.error (.typeMismatch
        (" | ".intercalate ((gs.filter fun g => lowerCase g.name == key).map fun g =>
          signatureText key g.params))
        (signatureText key types) s!"call to function '{key}'"))
  | unknown (h : ∀ g ∈ gs, lowerCase g.name ≠ key) :
      Resolves gs key types (.error (.functionNotFound (signatureText key types)))

/-- Every call has an outcome. -/
theorem exists_resolves (gs : List Registration) (key : String) (types : List DataType) :
    ∃ x, Resolves gs key types x := by
  by_cases hexact : ∃ g ∈ gs, g.Matches key types
  · obtain ⟨i, g, h⟩ := exists_first hexact
    exact ⟨_, .exact h⟩
  by_cases haccepts : ∃ g ∈ gs, g.Accepts key types
  · obtain ⟨i, g, h⟩ := exists_first haccepts
    exact ⟨_, .accepting (by simpa using hexact) h⟩
  by_cases hknown : ∃ g ∈ gs, lowerCase g.name = key
  · exact ⟨_, .mismatch hknown (by simpa using haccepts)⟩
  · exact ⟨_, .unknown (by simpa using hknown)⟩

theorem isEmpty_overloads_of_contains (h : (registerAll gs).contains name = true) :
    ((registerAll gs).overloads (lowerCase name)).isEmpty = false := by
  simpa [contains] using h

/-- The case split is on the outcomes of a call. -/
theorem Resolves.resolve_eq (h : Resolves gs (lowerCase name) types x) :
    (registerAll gs).resolve name types = x := by
  cases h with
  | exact h =>
    have hknown := contains_eq_true.mpr ⟨_, h.mem, h.holds.name⟩
    have hfind := find?_overloads_of_first (·.params == types)
      (fun _ => Registration.matches_iff) h
    simp [resolve, isEmpty_overloads_of_contains hknown, select?, hfind]
  | accepting hexact h =>
    have hknown := contains_eq_true.mpr ⟨_, h.mem, h.holds.name⟩
    have hnone := find?_overloads_of_none (·.params == types)
      (fun _ => Registration.matches_iff) hexact
    have hfind := find?_overloads_of_first (·.acceptsAll types)
      (fun _ => Registration.accepts_iff) h
    simp [resolve, isEmpty_overloads_of_contains hknown, select?, hnone, hfind]
  | mismatch hknown h =>
    have hexact := find?_overloads_of_none (·.params == types)
      (fun _ => Registration.matches_iff)
      fun g hg (hmatches : g.Matches _ _) => h g hg hmatches.accepts
    have haccepts := find?_overloads_of_none (·.acceptsAll types)
      (fun _ => Registration.accepts_iff) h
    have hempty := isEmpty_overloads_of_contains (contains_eq_true.mpr hknown)
    simp [resolve, hempty, select?, hexact, haccepts, signatures_overloads]
  | unknown h =>
    have hunknown : (registerAll gs).contains name = false := by
      rw [← Bool.not_eq_true, contains_eq_true]
      simpa using h
    have hempty : (registerAll gs).overloads (lowerCase name) = [] := by
      simpa [contains] using hunknown
    simp [resolve, hempty]

theorem resolve_eq_iff :
    (registerAll gs).resolve name types = x ↔ Resolves gs (lowerCase name) types x := by
  refine ⟨?_, Resolves.resolve_eq⟩
  rintro rfl
  obtain ⟨x, hx⟩ := exists_resolves gs (lowerCase name) types
  rw [hx.resolve_eq]
  exact hx

/-- A name is reported as missing just if no function of that name was registered. -/
theorem functionNotFound_iff :
    (∃ s, (registerAll gs).resolve name types = .error (.functionNotFound s)) ↔
      (registerAll gs).contains name = false := by
  rw [← Bool.not_eq_true, contains_eq_true]
  constructor
  · rintro ⟨s, hs⟩ ⟨g, hg, hname⟩
    cases resolve_eq_iff.mp hs with
    | unknown h => exact h g hg hname
  · intro h
    exact ⟨_, resolve_eq_iff.mpr (.unknown (by simpa using h))⟩

/-- An exact match is not displaced by what is registered later. -/
theorem resolve_append_of_params (later : List Registration)
    (h : (registerAll gs).resolve name types = .ok f) (hf : f.params = types) :
    (registerAll (gs ++ later)).resolve name types = .ok f := by
  cases resolve_eq_iff.mp h with
  | exact hfirst => exact resolve_eq_iff.mpr (.exact (hfirst.append later))
  | accepting hexact hfirst => exact absurd ⟨hfirst.holds.name, hf⟩ (hexact _ hfirst.mem)

/-- The first function that accepts the arguments stays the first; what can come before it is one
with exactly their types. -/
theorem resolve_append (later : List Registration)
    (h : (registerAll gs).resolve name types = .ok f) :
    (registerAll (gs ++ later)).resolve name types = .ok f ∨
      ∃ g, (registerAll (gs ++ later)).resolve name types = .ok g ∧ g.params = types := by
  cases resolve_eq_iff.mp h with
  | exact hfirst => exact .inl (resolve_eq_iff.mpr (.exact (hfirst.append later)))
  | accepting _ hfirst =>
    obtain ⟨x, hx⟩ := exists_resolves (gs ++ later) (lowerCase name) types
    have hgrown := hfirst.append later
    rw [hx.resolve_eq]
    cases hx with
    | exact hmatches => exact .inr ⟨_, rfl, hmatches.holds.params⟩
    | accepting _ hother =>
      obtain ⟨rfl, rfl⟩ := hgrown.unique hother
      exact .inl rfl
    | mismatch _ hnone => exact absurd hgrown.holds (hnone _ hgrown.mem)
    | unknown hnone => exact absurd hgrown.holds.name (hnone _ hgrown.mem)

/-- A call goes to the first function of its name with exactly the types of the arguments, else to
the first that accepts them. Else it is refused, as the call of an unknown function only if the
registry does not contain the name. Further registrations leave an exact resolution as it is, and
change another one only to an exact one. -/
theorem resolve_exact_before_accepting (gs : List Registration) (name : String)
    (types : List DataType) :
    (∀ x, (registerAll gs).resolve name types = x ↔ Resolves gs (lowerCase name) types x) ∧
    ((registerAll gs).contains name = true ↔ ∃ g ∈ gs, lowerCase g.name = lowerCase name) ∧
    ((∃ s, (registerAll gs).resolve name types = .error (.functionNotFound s)) ↔
      (registerAll gs).contains name = false) ∧
    ∀ later f, (registerAll gs).resolve name types = .ok f →
      (f.params = types → (registerAll (gs ++ later)).resolve name types = .ok f) ∧
      ((registerAll (gs ++ later)).resolve name types = .ok f ∨
        ∃ g, (registerAll (gs ++ later)).resolve name types = .ok g ∧ g.params = types) :=
  ⟨fun _ => resolve_eq_iff, contains_eq_true, functionNotFound_iff,
    fun later _ h => ⟨resolve_append_of_params later h, resolve_append later h⟩⟩

end Registry

/-- What the built-in functions are registered with, in this order. -/
def Builtin.registrations : List Registration := [
  ⟨"abs", [.integer], .integer, .returnsNull, absInteger⟩,
  ⟨"abs", [.float], .float, .returnsNull, absFloat⟩,
  ⟨"upper", [.text], .text, .returnsNull, upper⟩,
  ⟨"lower", [.text], .text, .returnsNull, lower⟩,
  ⟨"length", [.text], .integer, .returnsNull, length⟩,
  ⟨"concat", [.text, .text], .text, .returnsNull, concat⟩,
  ⟨"round", [.float], .float, .returnsNull, round⟩,
  ⟨"sqrt", [.float], .float, .returnsNull, sqrt⟩] ++
    DataType.all.map fun t => ⟨"coalesce", [t, t], t, .called, coalesce⟩

theorem Builtin.registerAll_registrations : Registry.registerAll registrations = registry := rfl

/-- The square root of an integer is that of a float until there is one for integers. -/
theorem Registry.resolve_sqrt_of_integer :
    let later : List Registration := [⟨"Sqrt", [.integer], .integer, .called, Builtin.coalesce⟩]
    let grown := registerAll (Builtin.registrations ++ later)
    let ofFloat : ScalarFunction := ⟨"sqrt", [.float], .float, .returnsNull, Builtin.sqrt, 7⟩
    let ofInteger : ScalarFunction := ⟨"sqrt", [.integer], .integer, .called, Builtin.coalesce, 15⟩
    Builtin.registry.resolve "SQRT" [.integer] = .ok ofFloat ∧
      grown.resolve "SQRT" [.integer] = .ok ofInteger ∧
      grown.resolve "SQRT" [.float] = .ok ofFloat := by
  intro later grown ofFloat ofInteger
  have hfloat : (registerAll Builtin.registrations).resolve "SQRT" [.float] = .ok ofFloat := rfl
  obtain ⟨-, -, -, hlater⟩ := resolve_exact_before_accepting Builtin.registrations "SQRT" [.float]
  exact ⟨rfl, rfl, (hlater later ofFloat hfloat).1 rfl⟩

end RowEngine
