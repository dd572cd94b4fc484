import RowEngine.Expr.Eval
import RowEngine.Proofs.Expr.Build
import RowEngine.Proofs.Function.Builtin

/-!
# Type soundness of expressions

An expression that was built over a schema gives null or a value of its type on every row that
conforms to the schema, or it fails for a reason that lies in the data. Every function that is
called on the way gets arguments that it declares.
-/

namespace RowEngine

def Call.Proper : Call → Prop
  | .function f args => f.Takes args
  | .extension _ => True

/-- An evaluation that gives a value with a property or fails for a reason that lies in the data,
and that makes only proper calls. -/
structure Safe {α : Type} (P : α → Prop) (x : Evaluation α) : Prop where
  result : Returns P x.result
  calls : ∀ c ∈ x.trace, c.Proper

namespace Safe

variable {α β : Type} {P : α → Prop} {Q : β → Prop}

theorem ofExcept {r : Except EvalError α} (h : Returns P r) : Safe P (Traced.ofExcept r) :=
  ⟨h, by simp [Traced.ofExcept]⟩

theorem ok {a : α} (h : P a) : Safe P (Traced.ok a) := ofExcept (r := .ok a) h

theorem after {x : Evaluation α} {c : Call} (hc : c.Proper) (hx : Safe P x) :
    Safe P (x.after c) := by
  refine ⟨hx.result, ?_⟩
  intro d hd
  rcases List.mem_cons.mp hd with rfl | hd
  · exact hc
  · exact hx.calls d hd

theorem mono {Q : α → Prop} {x : Evaluation α} (hx : Safe P x) (h : ∀ a, P a → Q a) : Safe Q x :=
  ⟨hx.result.mono h, hx.calls⟩

theorem bind {x : Evaluation α} {f : α → Evaluation β} (hx : Safe P x)
    (hf : ∀ a, P a → Safe Q (f a)) : Safe Q (x.bind f) := by
  obtain ⟨result, trace⟩ := x
  cases result with
  | error e => exact ⟨hx.result, hx.calls⟩
  | ok a =>
    have ha := hf a hx.result
    refine ⟨ha.result, ?_⟩
    intro c hc
    rcases List.mem_append.mp hc with hc | hc
    · exact hx.calls c hc
    · exact ha.calls c hc

end Safe

namespace BinaryOp

variable {op : BinaryOp} {a b v : Value} {s t type : DataType}

/-- What the left side settles by itself is a boolean. -/
theorem fits_decided? (h : op.Types s t type) (hv : op.decided? a = some v) : v.Fits type := by
  have hlogical : op.isLogical = true ∧ ∃ b, v = .boolean b := by
    unfold decided? at hv
    split at hv
    · exact ⟨rfl, false, (Option.some.inj hv).symm⟩
    · exact ⟨rfl, true, (Option.some.inj hv).symm⟩
    · cases hv
  obtain ⟨hop, b, rfl⟩ := hlogical
  cases h with
  | logical => exact Value.fits_boolean b
  | comparison => exact Value.fits_boolean b
  | arithmetic harithmetic => cases op <;> simp [isLogical, isArithmetic] at hop harithmetic

/-- The case split is on what operators ask of their operands. -/
theorem returns_apply (h : op.Types s t type) (ha : a.Fits s) (hb : b.Fits t) :
    Returns (·.Fits type) (op.apply a b) := by
  cases h with
  | logical hop =>
    cases op with
    | and => exact Value.fits_and3 a b
    | or => exact Value.fits_not3 _
    | _ => cases hop
  | comparison hop =>
    cases op with
    | equal | notEqual | less | lessEqual | greater | greaterEqual =>
      exact Value.fits_compare3 _ a b
    | _ => cases hop
  | arithmetic hop hs ht =>
    cases op with
    | plus | minus | times | divide | modulo => exact Value.returns_arithmetic hop ha hb hs ht
    | _ => cases hop

end BinaryOp

namespace Expr

/-- Outside logic, both operands are evaluated, whatever the first one is. -/
theorem result_binary {op : BinaryOp} (hop : op.isLogical = false) (schema : Schema)
    (row : RowView) (l r : Expr) (type : DataType) :
    ((binary op l r type).eval schema row).result =
      (l.eval schema row).result >>= fun a => (r.eval schema row).result >>= op.apply a := by
  rw [eval]
  cases op with
  | and | or => cases hop
  | _ => simp [BinaryOp.decided?, Traced.ofExcept]

variable (schema : Schema) (row : RowView)

/-- On a row, an expression gives a value that fits a type. -/
def Typed (e : Expr) (t : DataType) : Prop := Safe (·.Fits t) (e.eval schema row)

variable {schema row} {e l r low high : Expr} {s t type : DataType}

theorem typed_column {i : Nat} {c : Column} (hrow : row.Conforms schema)
    (hc : schema.columns[i]? = some c) : (column i c.type c.name).Typed schema row c.type := by
  obtain ⟨v, hv, hfits⟩ := hrow.fits i c hc
  unfold Typed
  rw [eval, hv]
  exact Safe.ok hfits

theorem typed_not (he : e.Typed schema row t) (ht : t.isCondition = true) :
    (unary .not e).Typed schema row .boolean :=
  Safe.bind he fun _ hv => Safe.ofExcept (Value.returns_negation hv ht)

theorem typed_negate (he : e.Typed schema row t) (ht : t.isOperand = true) :
    (unary .negate e).Typed schema row t :=
  Safe.bind he fun _ hv => Safe.ofExcept (Value.returns_negate hv ht)

/-- Both the value that the left side settles and the one computed from both sides fit. -/
theorem typed_binary {op : BinaryOp} (hl : l.Typed schema row s) (hr : r.Typed schema row t)
    (htypes : op.Types s t type) : (binary op l r type).Typed schema row type := by
  refine Safe.bind hl ?_
  intro a ha
  cases hdecided : op.decided? a with
  | some v => exact Safe.ok (BinaryOp.fits_decided? htypes hdecided)
  | none =>
    refine Safe.bind hr ?_
    intro b hb
    exact Safe.ofExcept (BinaryOp.returns_apply htypes ha hb)

theorem typed_isNull (he : e.Typed schema row t) (negated : Bool) :
    (isNull e negated).Typed schema row .boolean :=
  Safe.bind he fun _ _ => Safe.ok (Value.fits_boolean _)

theorem typed_between {u : DataType} (he : e.Typed schema row s) (hlow : low.Typed schema row t)
    (hhigh : high.Typed schema row u) (negated : Bool) :
    (between e low high negated).Typed schema row .boolean :=
  Safe.bind he fun _ _ => Safe.bind hlow fun _ _ => Safe.bind hhigh fun _ _ =>
    Safe.ok (Value.fits_negateIf negated (Value.fits_and3 _ _))

theorem typed_inList (he : e.Typed schema row t) (items : List Value) (negated : Bool) :
    (inList e (rowConst items) negated).Typed schema row .boolean :=
  Safe.bind he fun v _ => Safe.ok (Value.fits_negateIf negated (Value.fits_isIn v items))

theorem typed_like (he : e.Typed schema row t) (ht : t = .text ∨ t = .null)
    (pattern : String) (regex : Regex) (negated : Bool) :
    (like e pattern regex negated).Typed schema row .boolean := by
  refine Safe.bind he ?_
  intro v hv
  cases hnull : v.isNull with
  | true =>
    rw [Value.eq_null hnull]
    exact Safe.ok (Value.fits_null _)
  | false =>
    rcases ht with rfl | rfl
    · obtain ⟨text, rfl⟩ := Value.eq_text (hv.type_eq hnull)
      exact Safe.ok (Value.fits_boolean _)
    · rw [Value.fits_null_iff.mp hv] at hnull
      cases hnull

theorem typed_cast (he : e.Typed schema row s) (t : DataType) :
    (cast e t).Typed schema row t :=
  Safe.bind he fun v _ => Safe.ofExcept (Value.returns_cast v t)

/-- Whatever the type of an expression is, it can be widened to the one that is asked for. -/
theorem typed_widen (he : e.Typed schema row e.type) (t : DataType) :
    (widen t e).Typed schema row t := by
  unfold widen
  split
  · rename_i htype
    rcases htype with htype | htype
    · rw [← htype]
      exact he
    · refine Safe.mono he ?_
      intro v hv
      rw [htype, Value.fits_null_iff] at hv
      rw [hv]
      exact Value.fits_null t
  · exact typed_cast he t

theorem safe_evalAll {args : List Expr} {types : List DataType}
    (h : List.Forall₂ (Typed schema row) args types) :
    Safe (List.Forall₂ Value.Fits · types) (evalAll schema row args) := by
  induction h with
  | nil => exact Safe.ok .nil
  | cons ha _ ih =>
    refine Safe.bind ha ?_
    intro v hv
    refine Safe.bind ih ?_
    intro values hvalues
    exact Safe.ok (.cons hv hvalues)

/-- A call has the type that its function declares. -/
theorem typed_call {f : ScalarFunction} {args : List Expr} (hf : f.KeepsType)
    (hargs : List.Forall₂ (Typed schema row) args f.params) :
    (call f args).Typed schema row f.returns := by
  refine Safe.bind (safe_evalAll hargs) ?_
  intro values hvalues
  unfold ScalarFunction.apply
  split
  · exact Safe.ok (Value.fits_null _)
  · rename_i hcalled
    have htakes : f.Takes values := by
      refine ⟨hvalues, ?_⟩
      intro hpolicy v hv
      have hany : ¬ values.any Value.isNull = true := fun hany => hcalled ⟨hpolicy, hany⟩
      simpa using fun hnull => hany (List.any_eq_true.mpr ⟨v, hv, hnull⟩)
    exact Safe.after htakes (Safe.ofExcept (hf values htakes))

theorem safe_evalBranches {branches : List (Expr × Expr)}
    (h : ∀ b ∈ branches, b.1.Typed schema row b.1.type ∧ b.2.Typed schema row t) :
    Safe (fun o => ∀ v ∈ o, v.Fits t) (evalBranches schema row branches) := by
  induction branches with
  | nil => exact Safe.ok (by simp)
  | cons b rest ih =>
    obtain ⟨condition, result⟩ := b
    obtain ⟨hcondition, hresult⟩ := h (condition, result) (by simp)
    have hrest := ih fun c hc => h c (by simp [hc])
    refine Safe.bind hcondition ?_
    intro v _
    split
    · refine Safe.bind hresult ?_
      intro w hw
      exact Safe.ok (by simpa using hw)
    · exact hrest

theorem safe_evalElse {otherwise : Option Expr} (h : ∀ e ∈ otherwise, e.Typed schema row t) :
    Safe (·.Fits t) (evalElse schema row otherwise) := by
  cases otherwise with
  | none => exact Safe.ok (Value.fits_null t)
  | some e => exact h e rfl

theorem typed_caseWhen {branches : List (Expr × Expr)} {otherwise : Option Expr}
    (hbranches : ∀ b ∈ branches, b.1.Typed schema row b.1.type ∧ b.2.Typed schema row t)
    (helse : ∀ e ∈ otherwise, e.Typed schema row t) :
    (caseWhen branches otherwise t).Typed schema row t := by
  refine Safe.bind (safe_evalBranches hbranches) ?_
  intro o ho
  cases o with
  | none => exact safe_evalElse helse
  | some v => exact Safe.ok (ho v rfl)

/-- Arguments that are cast to the types of parameters are of these types. -/
theorem typed_bound {args : List Expr} {params : List DataType}
    (hlength : params.length = args.length) (h : ∀ a ∈ args, a.Typed schema row a.type) :
    List.Forall₂ (Typed schema row) (List.zipWith widen params args) params := by
  induction args generalizing params with
  | nil =>
    obtain rfl := List.length_eq_zero_iff.mp hlength
    exact .nil
  | cons a args ih =>
    cases params with
    | nil => cases hlength
    | cons p params =>
      exact .cons (typed_widen (h a (by simp)) p)
        (ih (Nat.succ.inj hlength) fun b hb => h b (by simp [hb]))

end Expr

/-- A node of another origin that gives a value of its type and blames nothing but the data, on the
rows that conform to a schema. -/
def Extension.KeepsType (schema : Schema) (node : Extension) : Prop :=
  ∀ row : RowView, row.Conforms schema → Returns (·.Fits node.type) (node.body schema row)

namespace Expr

/-- Expressions that are built over a schema by the constructors alone, with the functions of a
registry. -/
abbrev Built (registry : Registry) (schema : Schema) (e : Expr) : Prop :=
  e.ConstructedIn (.over registry schema (·.KeepsType schema))

variable {registry : Registry} {schema : Schema} {row : RowView} {e : Expr}

/-- The induction is on the way in which an expression was built. What a constructor checked of its
parts is what the node needs of their types. -/
theorem Built.typed (hregistry : ∀ f ∈ registry.functions, f.KeepsType)
    (hrow : row.Conforms schema) (h : e.Built registry schema) (hscalar : e.isRowConst = false) :
    e.Typed schema row e.type := by
  induction h with
  | columnAt hschema h =>
    obtain rfl := hschema
    obtain ⟨c, hc, rfl⟩ := columnAt_eq_ok h
    exact typed_column hrow hc
  | columnNamed hschema h =>
    obtain rfl := hschema
    obtain ⟨i, h⟩ := columnNamed_eq_ok h
    obtain ⟨c, hc, rfl⟩ := columnAt_eq_ok h
    exact typed_column hrow hc
  | const v => exact Safe.ok (Value.fits_type v)
  | rowConst values => cases hscalar
  | not _ h ih =>
    obtain ⟨rfl, he, htype⟩ := not_eq_ok h
    exact typed_not (ih he) htype
  | negate _ h ih =>
    obtain ⟨rfl, he, htype⟩ := negate_eq_ok h
    exact typed_negate (ih he) htype
  | binary _ _ h ihl ihr =>
    obtain ⟨type, rfl, hl, hr, htypes⟩ := binaryOf_eq_ok h
    exact typed_binary (ihl hl) (ihr hr) htypes
  | isNull _ h ih =>
    obtain ⟨rfl, he⟩ := isNullOf_eq_ok h
    exact typed_isNull (ih he) _
  | between _ _ _ h ih ihlow ihhigh =>
    obtain ⟨rfl, he, hlow, hhigh⟩ := betweenOf_eq_ok h
    exact typed_between (ih he) (ihlow hlow) (ihhigh hhigh) _
  | inList _ _ h ih =>
    obtain ⟨items, rfl, rfl, he⟩ := inListOf_eq_ok h
    exact typed_inList (ih he) items _
  | like _ h ih =>
    obtain ⟨htype, he, _, -, rfl⟩ := likeOf_eq_ok.mp h
    exact typed_like (ih he) htype _ _ _
  | cast _ h ih =>
    obtain ⟨rfl, he⟩ := castOf_eq_ok h
    exact typed_cast (ih he) _
  | caseWhen _ _ _ h ihconditions ihresults ihelse =>
    obtain ⟨type, rfl, hscalars, helse⟩ := caseWhenOf_eq_ok h
    apply typed_caseWhen
    · intro b hb
      obtain ⟨branch, hbranch, rfl⟩ := List.mem_map.mp hb
      obtain ⟨hcondition, hresult⟩ := hscalars branch hbranch
      exact ⟨ihconditions branch hbranch hcondition,
        typed_widen (ihresults branch hbranch hresult) type⟩
    · intro d hd
      obtain ⟨c, hc, rfl⟩ := Option.map_eq_some_iff.mp hd
      exact typed_widen (ihelse c hc (helse c hc)) type
  | call hregistered _ h ihargs =>
    obtain rfl := hregistered
    obtain ⟨f, rfl, hf, hlength, hargs⟩ := callOf_eq_ok h
    exact typed_call (hregistry f hf)
      (typed_bound hlength fun a ha => ihargs a ha (hargs a ha))
  | extension node hnode =>
    exact Safe.after trivial (Safe.ofExcept (hnode row hrow))

/-- On a row that conforms to the schema, an expression that was built over it gives null or a value
of its type, or fails for a reason that lies in the data; and no built-in function that it calls
reports an argument. Functions other than the built-in ones have to keep their types. -/
theorem eval_sound (hbuilt : e.Built registry schema) (hscalar : e.isRowConst = false)
    (hregistry : ∀ f ∈ registry.functions, f ∈ Builtin.registry.functions ∨ f.KeepsType)
    (hrow : row.Conforms schema) :
    (∀ v, (e.eval schema row).result = .ok v → v.Fits e.type) ∧
      (∀ err, (e.eval schema row).result = .error err → err.isDataDependent = true) ∧
      ∀ f args, .function f args ∈ (e.eval schema row).trace → f ∈ Builtin.registry.functions →
        ∀ err, f.body args = .error err → ¬ Builtin.IsReport err := by
  have hkeeps : ∀ f ∈ registry.functions, f.KeepsType := by
    intro f hf
    rcases hregistry f hf with hbuiltin | hkeeps
    · exact fun args hargs => (Builtin.sound_of_mem f hbuiltin args hargs).1
    · exact hkeeps
  have hsafe : Safe (·.Fits e.type) (e.eval schema row) := hbuilt.typed hkeeps hrow hscalar
  refine ⟨?_, ?_, ?_⟩
  · intro v hv
    have hresult := hsafe.result
    rwa [hv] at hresult
  · intro err herr
    have hresult := hsafe.result
    rwa [herr] at hresult
  · intro f args hcall hbuiltin
    exact (Builtin.sound_of_mem f hbuiltin args (hsafe.calls _ hcall)).2

/-- A number that is added to a column of integers. -/
theorem eval_sound_sum :
    let schema := (Relation.ofIntegers "n" [2]).schema
    let row := Row.view [.integer 2]
    let sum := Expr.binary .plus (.column 0 .integer "n") (.const (.integer 1)) .integer
    (sum.eval schema row).result = .ok (.integer 3) ∧ (Value.integer 3).Fits sum.type := by
  intro schema row sum
  have hsum : binaryOf .plus (.column 0 .integer "n") (.const (.integer 1)) = .ok sum := rfl
  have hbuilt : sum.Built Builtin.registry schema :=
    .binary (.columnAt (i := 0) rfl rfl) (.const _) hsum
  have hrow : row.Conforms schema :=
    Relation.conforms_ofIntegers "n" [2] _ (by simp [Relation.ofIntegers])
  have hvalue : (sum.eval schema row).result = .ok (.integer 3) := rfl
  exact ⟨hvalue, (eval_sound hbuilt rfl (fun _ hf => .inl hf) hrow).1 _ hvalue⟩

end Expr

end RowEngine
