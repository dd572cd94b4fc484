import RowEngine.Proofs.Expr.Typing

/-!
# Types of results, whatever fails

An expression may call functions and extensions that fail for any reason, as long as a value that
they do give has the type they declare. Then the values of an expression have its type, and so have
the arguments that its functions get, although nothing is known any more about its failures.
-/

namespace RowEngine

def ScalarFunction.Declares (f : ScalarFunction) : Prop :=
  ∀ args, f.Takes args → ∀ v, f.body args = .ok v → v.Fits f.returns

theorem ScalarFunction.KeepsType.declares {f : ScalarFunction} (h : f.KeepsType) : f.Declares := by
  intro args hargs v hv
  have hreturns := h args hargs
  rwa [hv] at hreturns

/-- The built-in functions keep their types. -/
theorem ScalarFunction.keepsType_of_builtin {f : ScalarFunction}
    (h : f ∈ Builtin.registry.functions ∨ f.KeepsType) : f.KeepsType := by
  rcases h with hbuiltin | hkeeps
  · exact fun args hargs => (Builtin.sound_of_mem f hbuiltin args hargs).1
  · exact hkeeps

/-- The built-in functions return what they declare. -/
theorem ScalarFunction.declares_of_builtin {f : ScalarFunction}
    (h : f ∈ Builtin.registry.functions ∨ f.Declares) : f.Declares := by
  rcases h with hbuiltin | hdeclares
  · exact (keepsType_of_builtin (.inl hbuiltin)).declares
  · exact hdeclares

/-- A node of another origin that gives values of its type, on the rows that conform to a schema. -/
def Extension.Declares (schema : Schema) (node : Extension) : Prop :=
  ∀ row : RowView, row.Conforms schema → ∀ v, node.body schema row = .ok v → v.Fits node.type

/-- An evaluation whose value, if there is one, has a property. -/
def Gives {α : Type} (P : α → Prop) (x : Evaluation α) : Prop := ∀ a, x.result = .ok a → P a

namespace Gives

variable {α β : Type} {P Q : α → Prop} {R : β → Prop} {x : Evaluation α}

theorem ok {a : α} (h : P a) : Gives P (Traced.ok a) := by
  rintro _ ⟨⟩
  exact h

theorem ofReturns {r : Except EvalError α} (h : Returns P r) : Gives P (Traced.ofExcept r) := by
  intro a ha
  rwa [show r = .ok a from ha] at h

theorem mono (hx : Gives P x) (h : ∀ a, P a → Q a) : Gives Q x := fun a ha => h a (hx a ha)

theorem bind {f : α → Evaluation β} (hx : Gives P x) (hf : ∀ a, P a → Gives R (f a)) :
    Gives R (x.bind f) := by
  intro b hb
  rw [Traced.result_bind, bind_eq_ok] at hb
  obtain ⟨a, ha, hb⟩ := hb
  exact hf a (hx a ha) b hb

end Gives

/-- An evaluation whose value, if there is one, has a property, and which calls no functions but
those of a registry, with arguments that they take. -/
structure Orderly {α : Type} (registry : Registry) (P : α → Prop) (x : Evaluation α) : Prop where
  gives : Gives P x
  calls : ∀ f args, .function f args ∈ x.trace → f ∈ registry.functions ∧ f.Takes args

namespace Orderly

variable {α β : Type} {registry : Registry} {P Q : α → Prop} {R : β → Prop} {x : Evaluation α}

theorem ofReturns {r : Except EvalError α} (h : Returns P r) :
    Orderly registry P (Traced.ofExcept r) :=
  ⟨.ofReturns h, by simp [Traced.ofExcept]⟩

theorem ok {a : α} (h : P a) : Orderly registry P (Traced.ok a) := ⟨.ok h, by simp [Traced.ok]⟩

theorem error (e : EvalError) : Orderly registry P (Traced.error e) :=
  ⟨nofun, by simp [Traced.error]⟩

theorem mono (hx : Orderly registry P x) (h : ∀ a, P a → Q a) : Orderly registry Q x :=
  ⟨hx.gives.mono h, hx.calls⟩

theorem bind {f : α → Evaluation β} (hx : Orderly registry P x)
    (hf : ∀ a, P a → Orderly registry R (f a)) : Orderly registry R (x.bind f) := by
  refine ⟨hx.gives.bind fun a ha => (hf a ha).gives, ?_⟩
  obtain ⟨result, trace⟩ := x
  cases result with
  | error e => exact hx.calls
  | ok a =>
    intro g args hmem
    rcases List.mem_append.mp hmem with hmem | hmem
    · exact hx.calls g args hmem
    · exact (hf a (hx.gives a rfl)).calls g args hmem

end Orderly

namespace Expr

/-- Expressions that are built over a schema by the constructors alone, with the functions of a
registry, where extensions may fail for any reason. -/
abbrev Formed (registry : Registry) (schema : Schema) (e : Expr) : Prop :=
  e.ConstructedIn (.over registry schema (·.Declares schema))

variable {registry : Registry} {schema : Schema} {row : RowView} {e : Expr} {t : DataType}

theorem orderly_columnAt (hrow : row.Conforms schema) {i : Nat} (h : columnAt schema i = .ok e) :
    Orderly registry (·.Fits e.type) (e.eval schema row) := by
  obtain ⟨c, hc, rfl⟩ := columnAt_eq_ok h
  obtain ⟨v, hv, hfits⟩ := hrow.fits _ c hc
  rw [eval, hv]
  exact .ok hfits

/-- An expression that gives values of its own type gives values of any type that it is widened to.
-/
theorem orderly_widen (he : Orderly registry (·.Fits e.type) (e.eval schema row)) (t : DataType) :
    Orderly registry (·.Fits t) ((widen t e).eval schema row) := by
  unfold widen
  split
  · rename_i htype
    rcases htype with htype | htype
    · rwa [htype] at he
    · refine he.mono ?_
      intro v hv
      rw [htype, Value.fits_null_iff] at hv
      rw [hv]
      exact Value.fits_null t
  · exact he.bind fun v _ => .ofReturns (Value.returns_cast v t)

/-- Arguments that are cast to the types of parameters give values of these types. -/
theorem orderly_evalAll {args : List Expr} {params : List DataType}
    (hlength : params.length = args.length)
    (h : ∀ a ∈ args, Orderly registry (·.Fits a.type) (a.eval schema row)) :
    Orderly registry (List.Forall₂ Value.Fits · params)
      (evalAll schema row (List.zipWith widen params args)) := by
  induction args generalizing params with
  | nil =>
    obtain rfl := List.length_eq_zero_iff.mp hlength
    exact .ok .nil
  | cons a args ih =>
    cases params with
    | nil => cases hlength
    | cons p params =>
      refine (orderly_widen (h a (by simp)) p).bind ?_
      intro v hv
      refine (ih (Nat.succ.inj hlength) fun b hb => h b (by simp [hb])).bind ?_
      intro values hvalues
      exact .ok (.cons hv hvalues)

/-- A function that returns what it declares is called only with what it takes, so its result fits.
-/
theorem orderly_apply {f : ScalarFunction} (hmem : f ∈ registry.functions) (hf : f.Declares)
    {values : List Value} (hvalues : List.Forall₂ Value.Fits values f.params) :
    Orderly registry (·.Fits f.returns) (f.apply values) := by
  unfold ScalarFunction.apply
  split
  · exact .ok (Value.fits_null _)
  · rename_i hcalled
    have htakes : f.Takes values := by
      refine ⟨hvalues, ?_⟩
      intro hpolicy v hv
      have hany : ¬ values.any Value.isNull = true := fun hany => hcalled ⟨hpolicy, hany⟩
      simpa using fun hnull => hany (List.any_eq_true.mpr ⟨v, hv, hnull⟩)
    refine ⟨hf values htakes, ?_⟩
    intro g args hcall
    cases List.mem_singleton.mp hcall
    exact ⟨hmem, htakes⟩

theorem orderly_evalBranches {branches : List (Expr × Expr)}
    (hconditions : ∀ b ∈ branches, Orderly registry (·.Fits b.1.type) (b.1.eval schema row))
    (hresults : ∀ b ∈ branches, Orderly registry (·.Fits b.2.type) (b.2.eval schema row))
    (t : DataType) :
    Orderly registry (fun o => ∀ v ∈ o, v.Fits t)
      (evalBranches schema row (branches.map fun b => (b.1, widen t b.2))) := by
  induction branches with
  | nil => exact .ok (by simp)
  | cons b rest ih =>
    obtain ⟨hcondition, hconditions⟩ := List.forall_mem_cons.mp hconditions
    obtain ⟨hresult, hresults⟩ := List.forall_mem_cons.mp hresults
    refine hcondition.bind ?_
    intro v _
    split
    · refine (orderly_widen hresult t).bind ?_
      intro w hw
      exact .ok (by simpa using hw)
    · exact ih hconditions hresults

/-- The induction is on the way in which an expression was built. -/
theorem Formed.orderly (hregistry : ∀ f ∈ registry.functions, f.Declares)
    (hrow : row.Conforms schema) (h : e.Formed registry schema) :
    Orderly registry (·.Fits e.type) (e.eval schema row) := by
  induction h with
  | columnAt hschema h =>
    obtain rfl := hschema
    exact orderly_columnAt hrow h
  | columnNamed hschema h =>
    obtain rfl := hschema
    obtain ⟨i, h⟩ := columnNamed_eq_ok h
    exact orderly_columnAt hrow h
  | const v => exact .ok (Value.fits_type v)
  | rowConst values => exact .error _
  | not _ h ih =>
    obtain ⟨rfl, -, htype⟩ := not_eq_ok h
    exact ih.bind fun _ hv => .ofReturns (Value.returns_negation hv htype)
  | negate _ h ih =>
    obtain ⟨rfl, -, htype⟩ := negate_eq_ok h
    exact ih.bind fun _ hv => .ofReturns (Value.returns_negate hv htype)
  | @binary op _ _ _ _ _ h ihl ihr =>
    obtain ⟨type, rfl, -, -, htypes⟩ := binaryOf_eq_ok h
    refine ihl.bind ?_
    intro a ha
    cases hdecided : op.decided? a with
    | some v => exact .ok (BinaryOp.fits_decided? htypes hdecided)
    | none => exact ihr.bind fun b hb => .ofReturns (BinaryOp.returns_apply htypes ha hb)
  | isNull _ h ih =>
    obtain ⟨rfl, -⟩ := isNullOf_eq_ok h
    exact ih.bind fun _ _ => .ok (Value.fits_boolean _)
  | between _ _ _ h ih ihlow ihhigh =>
    obtain ⟨rfl, -⟩ := betweenOf_eq_ok h
    exact ih.bind fun _ _ => ihlow.bind fun _ _ => ihhigh.bind fun _ _ =>
      .ok (Value.fits_negateIf _ (Value.fits_and3 _ _))
  | inList _ _ h ih =>
    obtain ⟨items, rfl, rfl, -⟩ := inListOf_eq_ok h
    exact ih.bind fun v _ => .ok (Value.fits_negateIf _ (Value.fits_isIn v items))
  | like _ h ih =>
    obtain ⟨-, -, _, -, rfl⟩ := likeOf_eq_ok.mp h
    refine ih.bind ?_
    intro v _
    cases v with
    | null => exact .ok (Value.fits_null _)
    | text s => exact .ok (Value.fits_boolean _)
    | boolean | integer | float | date | blob => exact .error _
  | cast _ h ih =>
    obtain ⟨rfl, -⟩ := castOf_eq_ok h
    exact ih.bind fun v _ => .ofReturns (Value.returns_cast v _)
  | @caseWhen branches otherwise _ _ _ _ h ihconditions ihresults ihelse =>
    obtain ⟨type, rfl, -⟩ := caseWhenOf_eq_ok h
    refine (orderly_evalBranches ihconditions ihresults type).bind ?_
    intro o ho
    cases o with
    | some v => exact .ok (ho v rfl)
    | none =>
      cases otherwise with
      | none => exact .ok (Value.fits_null type)
      | some e => exact orderly_widen (ihelse e rfl) type
  | call hregistered _ h ihargs =>
    obtain rfl := hregistered
    obtain ⟨f, rfl, hf, hlength, -⟩ := callOf_eq_ok h
    exact (orderly_evalAll hlength ihargs).bind fun values hvalues =>
      orderly_apply hf (hregistry f hf) hvalues
  | extension node hnode =>
    refine ⟨fun v hv => hnode row hrow v hv, ?_⟩
    intro f args hcall
    cases List.mem_singleton.mp hcall

theorem Formed.gives (hregistry : ∀ f ∈ registry.functions, f.Declares)
    (hrow : row.Conforms schema) (h : e.Formed registry schema) :
    Gives (·.Fits e.type) (e.eval schema row) :=
  (h.orderly hregistry hrow).gives

end Expr

end RowEngine
