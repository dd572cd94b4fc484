import RowEngine.Proofs.Expr.Results

/-!
# What functions are called with

Each call in the trace of an evaluation was made by a node of the expression, just after the
arguments of this node had been evaluated, and with their values. Where constructors built the
expression, these are as many as the function declares. Over a schema they have the types that it
declares, as long as functions and extensions give values of the types that they declare.
-/

namespace RowEngine

namespace Expr

inductive Within (d : Expr) : Expr → Prop where
  | self : Within d d
  | child {c e : Expr} (hc : c ∈ e.children) (h : Within d c) : Within d e

/-- A node in one of some expressions calls a function with these values, which its arguments have
just been evaluated to when the trace is `before`. -/
def CallsFrom (schema : Schema) (row : RowView) (es : List Expr) (before : List Call)
    (f : ScalarFunction) (values : List Value) : Prop :=
  ∃ args, (∃ e ∈ es, (call f args).Within e) ∧ (evalAll schema row args).result = .ok values ∧
    (evalAll schema row args).trace <:+ before ∧
    (f.nullPolicy = .returnsNull → values.any Value.isNull = false)

/-- All function calls of an evaluation come from nodes in some expressions. -/
def Accounts (schema : Schema) (row : RowView) (es : List Expr) {α : Type} (x : Evaluation α) :
    Prop :=
  ∀ before f values after, x.trace = before ++ .function f values :: after →
    CallsFrom schema row es before f values

section

variable {schema : Schema} {row : RowView} {es es' : List Expr} {α β : Type} {x : Evaluation α}
  {before : List Call} {f : ScalarFunction} {values : List Value}

theorem eq_of_only_call {c d : Call} {after : List Call} (h : [c] = before ++ d :: after) :
    before = [] ∧ d = c := by
  cases before with
  | nil => exact ⟨rfl, (List.cons.inj h).1.symm⟩
  | cons b before => cases before <;> cases h

theorem CallsFrom.after (h : CallsFrom schema row es before f values) (earlier : List Call) :
    CallsFrom schema row es (earlier ++ before) f values := by
  obtain ⟨args, hnode, hvalues, htrace, hnull⟩ := h
  exact ⟨args, hnode, hvalues, htrace.trans (List.suffix_append earlier before), hnull⟩

namespace Accounts

/-- An evaluation that calls nothing has nothing to account for. -/
theorem silent (h : x.trace = []) : Accounts schema row es x := by
  intro before f values after htrace
  rw [h] at htrace
  simp at htrace

theorem ok (a : α) : Accounts schema row es (Traced.ok a) := silent rfl

theorem error (e : EvalError) : Accounts schema row es (Traced.error e : Evaluation α) := silent rfl

theorem ofExcept (r : Except EvalError α) : Accounts schema row es (Traced.ofExcept r) := silent rfl

theorem mono (h : Accounts schema row es x) (hes : ∀ e ∈ es, e ∈ es') :
    Accounts schema row es' x := by
  intro before f values after htrace
  obtain ⟨args, ⟨e, he, hnode⟩, hcall⟩ := h before f values after htrace
  exact ⟨args, ⟨e, hes e he, hnode⟩, hcall⟩

/-- What the parts of a node account for, the node does. -/
theorem node {e : Expr} (h : Accounts schema row e.children x) : Accounts schema row [e] x := by
  intro before f values after htrace
  obtain ⟨args, ⟨c, hc, hnode⟩, hcall⟩ := h before f values after htrace
  exact ⟨args, ⟨e, List.mem_singleton_self e, .child hc hnode⟩, hcall⟩

/-- A call is made by the first of two evaluations, or by the second one after the whole trace of
the first. -/
theorem bind_after {g : α → Evaluation β} (hx : Accounts schema row es x)
    (hg : ∀ a, x.result = .ok a → ∀ before f values after,
      (g a).trace = before ++ .function f values :: after →
        CallsFrom schema row es (x.trace ++ before) f values) :
    Accounts schema row es (x.bind g) := by
  obtain ⟨result, trace⟩ := x
  cases result with
  | error e => exact hx
  | ok a =>
    intro before f values after htrace
    rcases List.append_eq_append_iff.mp htrace with ⟨rest, rfl, hrest⟩ | ⟨rest, htrace, hrest⟩
    · exact hg a rfl rest f values after hrest
    · cases rest with
      | nil =>
        have hcall := hg a rfl [] f values after hrest.symm
        rwa [List.append_nil, show trace = before ++ [] from htrace, List.append_nil] at hcall
      | cons c rest =>
        obtain ⟨rfl, -⟩ := List.cons.inj hrest
        exact hx before f values rest htrace

theorem bind {g : α → Evaluation β} (hx : Accounts schema row es x)
    (hg : ∀ a, Accounts schema row es (g a)) : Accounts schema row es (x.bind g) :=
  hx.bind_after fun a _ before f values after htrace =>
    (hg a before f values after htrace).after x.trace

end Accounts

end

variable (schema : Schema) (row : RowView)

mutual

/-- One case for each kind of node. Only a call adds to what its parts account for. -/
theorem accounts_eval : (e : Expr) → Accounts schema row [e] (e.eval schema row)
  | column id _ _ => by
    rw [eval]
    split
    · exact .ok _
    · exact .error _
  | const v => .ok v
  | rowConst _ => .error _
  | unary op arg => .node <| (accounts_eval arg).bind fun v => by
    cases op with
    | not | negate => exact .ofExcept _
  | binary op left right _ => .node <|
    ((accounts_eval left).mono (by simp [children])).bind fun a => by
      split
      · exact .ok _
      · exact ((accounts_eval right).mono (by simp [children])).bind fun b => .ofExcept _
  | isNull arg _ => .node <| (accounts_eval arg).bind fun v => .ok _
  | between arg low high _ => .node <|
    ((accounts_eval arg).mono (by simp [children])).bind fun v =>
      ((accounts_eval low).mono (by simp [children])).bind fun a =>
        ((accounts_eval high).mono (by simp [children])).bind fun b => .ok _
  | inList arg list negated => by
    have harg (list : Expr) : Accounts schema row (inList arg list negated).children
        (arg.eval schema row) := (accounts_eval arg).mono (by simp [children])
    cases list with
    | rowConst items => exact .node ((harg _).bind fun v => .ok _)
    | _ => exact .error _
  | like arg _ _ _ => .node <| (accounts_eval arg).bind fun v => by
    split
    · exact .ok _
    · exact .ok _
    · exact .error _
  | cast arg _ => .node <| (accounts_eval arg).bind fun v => .ofExcept _
  | caseWhen branches otherwise _ => .node <|
    ((accounts_evalBranches branches).mono fun _ => List.mem_append_left _).bind fun o => by
      split
      · exact .ok _
      · exact (accounts_evalElse otherwise).mono fun _ => List.mem_append_right _
  | call f args => by
    have hargs : Accounts schema row (call f args).children (evalAll schema row args) :=
      accounts_evalAll args
    refine hargs.node.bind_after ?_
    intro values hvalues before g passed after htrace
    unfold ScalarFunction.apply at htrace
    split at htrace
    · cases before <;> cases htrace
    · rename_i hcalled
      obtain ⟨rfl, hcall⟩ := eq_of_only_call htrace
      cases hcall
      refine ⟨args, ⟨_, List.mem_singleton_self _, .self⟩, hvalues, by simp, ?_⟩
      intro hpolicy
      simpa [hpolicy] using hcalled
  | extension node => by
    intro before f values after htrace
    cases (eq_of_only_call htrace).2
termination_by structural e => e

theorem accounts_evalAll : (es : List Expr) → Accounts schema row es (evalAll schema row es)
  | [] => .ok _
  | e :: rest =>
    ((accounts_eval e).mono (by simp)).bind fun v =>
      ((accounts_evalAll rest).mono fun _ => List.mem_cons_of_mem _).bind fun values => .ok _
termination_by structural es => es

theorem accounts_evalBranches : (bs : List (Expr × Expr)) →
    Accounts schema row (bs.flatMap fun (condition, result) => [condition, result])
      (evalBranches schema row bs)
  | [] => .ok _
  | (condition, result) :: rest =>
    ((accounts_eval condition).mono (by simp)).bind fun v => by
      split
      · exact ((accounts_eval result).mono (by simp)).bind fun w => .ok _
      · exact (accounts_evalBranches rest).mono fun _ => List.mem_append_right _
termination_by structural bs => bs

theorem accounts_evalElse : (o : Option Expr) →
    Accounts schema row o.toList (evalElse schema row o)
  | none => .ok _
  | some e => accounts_eval e
termination_by structural o => o

end

/-- Every call in an expression has an argument for each parameter. -/
def Saturated (e : Expr) : Prop :=
  ∀ f args, (call f args).Within e → args.length = f.params.length

section

variable {e : Expr}

theorem Saturated.node (hself : ∀ f args, e = call f args → args.length = f.params.length)
    (h : ∀ c ∈ e.children, c.Saturated) : e.Saturated := by
  intro f args hnode
  cases hnode with
  | self => exact hself f args rfl
  | child hc hnode => exact h _ hc f args hnode

theorem Saturated.widen (h : e.Saturated) (t : DataType) : (widen t e).Saturated := by
  unfold Expr.widen
  split
  · exact h
  · exact .node nofun (by simpa [children] using h)

theorem mem_zipWith_widen {c : Expr} {params : List DataType} {args : List Expr}
    (h : c ∈ List.zipWith Expr.widen params args) : ∃ a ∈ args, ∃ t, c = Expr.widen t a := by
  obtain ⟨i, hi, rfl⟩ := List.mem_iff_getElem.mp h
  exact ⟨_, List.getElem_mem _, _, List.getElem_zipWith⟩

theorem mem_children_caseWhen {c : Expr} {branches : List (Expr × Expr)} {otherwise : Option Expr}
    {type : DataType} : c ∈ (caseWhen branches otherwise type).children ↔
      (∃ b ∈ branches, c = b.1 ∨ c = b.2) ∨ otherwise = some c := by
  simp [children]

/-- The induction is on the way in which an expression was built. -/
theorem Constructed.saturated (h : e.Constructed) : e.Saturated := by
  induction h with
  | columnAt _ h =>
    obtain ⟨c, -, rfl⟩ := columnAt_eq_ok h
    exact .node nofun nofun
  | columnNamed _ h =>
    obtain ⟨i, h⟩ := columnNamed_eq_ok h
    obtain ⟨c, -, rfl⟩ := columnAt_eq_ok h
    exact .node nofun nofun
  | const | rowConst | extension => exact .node nofun nofun
  | not _ h ih =>
    obtain ⟨rfl, -⟩ := not_eq_ok h
    exact .node nofun (by simpa [children] using ih)
  | negate _ h ih =>
    obtain ⟨rfl, -⟩ := negate_eq_ok h
    exact .node nofun (by simpa [children] using ih)
  | binary _ _ h ihl ihr =>
    obtain ⟨_, rfl, -⟩ := binaryOf_eq_ok h
    exact .node nofun (by simpa [children] using ⟨ihl, ihr⟩)
  | isNull _ h ih =>
    obtain ⟨rfl, -⟩ := isNullOf_eq_ok h
    exact .node nofun (by simpa [children] using ih)
  | between _ _ _ h ih ihlow ihhigh =>
    obtain ⟨rfl, -⟩ := betweenOf_eq_ok h
    exact .node nofun (by simpa [children] using ⟨ih, ihlow, ihhigh⟩)
  | inList _ _ h ih ihlist =>
    obtain ⟨_, -, rfl, -⟩ := inListOf_eq_ok h
    exact .node nofun (by simpa [children] using ⟨ih, ihlist⟩)
  | like _ h ih =>
    obtain ⟨-, -, _, -, rfl⟩ := likeOf_eq_ok.mp h
    exact .node nofun (by simpa [children] using ih)
  | cast _ h ih =>
    obtain ⟨rfl, -⟩ := castOf_eq_ok h
    exact .node nofun (by simpa [children] using ih)
  | @caseWhen branches otherwise _ _ _ _ h ihconditions ihresults ihelse =>
    obtain ⟨type, rfl, -⟩ := caseWhenOf_eq_ok h
    refine .node nofun fun c hc => ?_
    rcases mem_children_caseWhen.mp hc with ⟨b, hb, hc⟩ | hc
    · obtain ⟨branch, hbranch, rfl⟩ := List.mem_map.mp hb
      rcases hc with rfl | rfl
      · exact ihconditions branch hbranch
      · exact (ihresults branch hbranch).widen type
    · obtain ⟨d, hd, rfl⟩ := Option.map_eq_some_iff.mp hc
      exact (ihelse d hd).widen type
  | call _ _ h ihargs =>
    obtain ⟨f, rfl, -, hlength, -⟩ := callOf_eq_ok h
    refine .node ?_ fun c hc => ?_
    · rintro _ _ ⟨⟩
      simp [hlength]
    · obtain ⟨a, ha, t, rfl⟩ := mem_zipWith_widen hc
      exact (ihargs a ha).widen t

end

/-- Arguments and their values stand in one order. -/
theorem forall₂_evalAll {args : List Expr} {values : List Value}
    (h : (evalAll schema row args).result = .ok values) :
    List.Forall₂ (fun a v => (a.eval schema row).result = .ok v) args values := by
  induction args generalizing values with
  | nil =>
    cases h
    exact .nil
  | cons a args ih =>
    simp only [evalAll, Traced.bind_eq, Traced.result_bind, Traced.result_ok, bind_eq_ok] at h
    obtain ⟨v, hv, rest, hrest, heq⟩ := h
    cases heq
    exact .cons hv (ih hrest)

/-- Every call of a function comes from a node of the expression, whose arguments have just been
evaluated without failure to the values that are passed. None of them is null if the function is not
called on nulls, and there is one for each parameter if constructors made the expression. Over a
schema, the function is one of the registry, and the values have the types that it declares, where
what functions and extensions give has the types that these declare. -/
theorem calls_as_declared (schema : Schema) (row : RowView) (e : Expr) :
    (∀ before f values after, (e.eval schema row).trace = before ++ .function f values :: after →
      ∃ args, (call f args).Within e ∧
        List.Forall₂ (fun a v => (a.eval schema row).result = .ok v) args values ∧
        (evalAll schema row args).trace <:+ before ∧
        (f.nullPolicy = .returnsNull → ∀ v ∈ values, v.isNull = false) ∧
        (e.Constructed → values.length = f.params.length)) ∧
    ∀ registry, e.Formed registry schema →
      (∀ f ∈ registry.functions, f ∈ Builtin.registry.functions ∨ f.Declares) →
      row.Conforms schema →
      ∀ f values, .function f values ∈ (e.eval schema row).trace →
        f ∈ registry.functions ∧ List.Forall₂ Value.Fits values f.params := by
  constructor
  · intro before f values after htrace
    obtain ⟨args, ⟨d, hd, hnode⟩, hvalues, hbefore, hnull⟩ :=
      accounts_eval schema row e before f values after htrace
    obtain rfl := List.mem_singleton.mp hd
    have hargs := forall₂_evalAll schema row hvalues
    refine ⟨args, hnode, hargs, hbefore, ?_, ?_⟩
    · intro hpolicy v hv
      simpa using List.any_eq_false.mp (hnull hpolicy) v hv
    · intro hbuilt
      rw [← hargs.length_eq, hbuilt.saturated f args hnode]
  · intro registry hformed hregistry hrow f values hcall
    have hdeclares : ∀ f ∈ registry.functions, f.Declares := fun f hf =>
      ScalarFunction.declares_of_builtin (hregistry f hf)
    obtain ⟨hmem, htakes⟩ := (hformed.orderly hdeclares hrow).calls f values hcall
    exact ⟨hmem, htakes.1⟩

/-- The root of the absolute value of a column of integers: the absolute value is an integer, and
the root gets a float. -/
theorem calls_as_declared_roots :
    let schema := (Relation.ofIntegers "n" [-4]).schema
    let row := Row.view [.integer (-4)]
    let abs : ScalarFunction := ⟨"abs", [.integer], .integer, .returnsNull, Builtin.absInteger, 0⟩
    let sqrt : ScalarFunction := ⟨"sqrt", [.float], .float, .returnsNull, Builtin.sqrt, 7⟩
    let inner := Expr.call abs [.column 0 .integer "n"]
    let e := Expr.call sqrt [.cast inner .float]
    e.Formed Builtin.registry schema ∧ e.Constructed ∧ row.Conforms schema ∧
      (e.eval schema row).trace =
        [.function abs [.integer (-4)], .function sqrt [.float (.ofInt 4)]] ∧
      abs ∈ Builtin.registry.functions ∧ (Value.integer (-4)).Fits .integer ∧
      sqrt ∈ Builtin.registry.functions ∧ (Value.float (.ofInt 4)).Fits .float ∧
      ∃ args, (call sqrt args).Within e ∧
        (evalAll schema row args).trace <:+ [.function abs [.integer (-4)]] := by
  intro schema row abs sqrt inner e
  have hinner : callOf Builtin.registry "ABS" [.column 0 .integer "n"] = .ok inner := rfl
  have houter : callOf Builtin.registry "sqrt" [inner] = .ok e := rfl
  have hformed : e.Formed Builtin.registry schema :=
    .call rfl (by simpa using .call rfl (by simpa using .columnAt (i := 0) rfl rfl) hinner) houter
  have hcolumn : (Expr.column 0 .integer "n").Constructed :=
    @ConstructedIn.columnAt .any schema 0 _ trivial rfl
  have hbuilt : e.Constructed :=
    .call trivial (by simpa using .call trivial (by simpa using hcolumn) hinner) houter
  have hrow : row.Conforms schema :=
    Relation.conforms_ofIntegers "n" [-4] _ (by simp [Relation.ofIntegers])
  have htrace : (e.eval schema row).trace =
      [.function abs [.integer (-4)], .function sqrt [.float (.ofInt 4)]] := rfl
  obtain ⟨hnodes, htypes⟩ := calls_as_declared schema row e
  have hcalls := htypes Builtin.registry hformed (fun _ hf => .inl hf) hrow
  obtain ⟨habs, habsTypes⟩ := hcalls abs _ (by rw [htrace]; exact .head _)
  obtain ⟨hsqrt, hsqrtTypes⟩ := hcalls sqrt _ (by rw [htrace]; exact .tail _ (.head _))
  obtain ⟨args, hnode, -, hbefore, -⟩ := hnodes [.function abs [.integer (-4)]] sqrt _ [] htrace
  exact ⟨hformed, hbuilt, hrow, htrace, habs, (List.forall₂_cons.mp habsTypes).1, hsqrt,
    (List.forall₂_cons.mp hsqrtTypes).1, args, hnode, hbefore⟩

end Expr

end RowEngine
