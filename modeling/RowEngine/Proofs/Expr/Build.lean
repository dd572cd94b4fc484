import RowEngine.Expr.Build
import RowEngine.Proofs.Outcome

/-!
# What the constructors make

Each constructor that succeeds says which node it made and what it checked of its parts.
-/

namespace RowEngine

/-- What a binary operator asks of the types of its operands, and the type of the result. -/
inductive BinaryOp.Types (op : BinaryOp) (a b : DataType) : DataType → Prop where
  | logical (h : op.isLogical = true) (ha : a.isCondition = true) (hb : b.isCondition = true) :
      Types op a b .boolean
  | arithmetic (h : op.isArithmetic = true) (ha : a.isOperand = true) (hb : b.isOperand = true) :
      Types op a b (a.arithmetic b)
  | comparison (h : op.isComparison = true) (hab : a.comparable b = true) : Types op a b .boolean

namespace Expr

variable {e l r s : Expr} {context : String}

theorem asScalar_eq_ok : asScalar context e = .ok s ↔ e.isRowConst = false ∧ s = e := by
  cases h : e.isRowConst <;> simp [asScalar, h, eq_comm]

theorem asCondition_eq_ok : asCondition context e = .ok s ↔
    e.type.isCondition = true ∧ e.isRowConst = false ∧ s = e := by
  cases h : e.type.isCondition <;> simp [asCondition, h, asScalar_eq_ok]

theorem checkOperand_eq_ok {u : Unit} :
    checkOperand context e = .ok u ↔ e.type.isOperand = true := by
  cases h : e.type.isOperand <;> simp [checkOperand, h]

theorem checkComparable_eq_ok {a b : DataType} {u : Unit} :
    checkComparable context a b = .ok u ↔ a.comparable b = true := by
  cases h : a.comparable b <;> simp [checkComparable, h]

theorem not_eq_ok (h : Expr.not e = .ok s) :
    s = unary .not e ∧ e.isRowConst = false ∧ e.type.isCondition = true := by
  simp only [Expr.not, bind_eq_ok, asCondition_eq_ok, pure, Except.pure, Except.ok.injEq] at h
  obtain ⟨_, ⟨htype, hscalar, rfl⟩, rfl⟩ := h
  exact ⟨rfl, hscalar, htype⟩

theorem negate_eq_ok (h : Expr.negate e = .ok s) :
    s = unary .negate e ∧ e.isRowConst = false ∧ e.type.isOperand = true := by
  simp only [Expr.negate, bind_eq_ok, checkOperand_eq_ok, asScalar_eq_ok, pure, Except.pure,
    Except.ok.injEq] at h
  obtain ⟨_, htype, _, ⟨hscalar, rfl⟩, rfl⟩ := h
  exact ⟨rfl, hscalar, htype⟩

/-- The type of the result is settled by the types of the operands, as the operator asks. -/
theorem binaryOf_eq_ok {op : BinaryOp} (h : binaryOf op l r = .ok s) :
    ∃ type, s = binary op l r type ∧ l.isRowConst = false ∧ r.isRowConst = false ∧
      op.Types l.type r.type type := by
  simp only [binaryOf] at h
  split at h
  · rename_i hlogical
    simp only [bind_eq_ok, asCondition_eq_ok, pure, Except.pure, Except.ok.injEq] at h
    obtain ⟨_, ⟨hltype, hl, rfl⟩, _, ⟨hrtype, hr, rfl⟩, rfl⟩ := h
    exact ⟨_, rfl, hl, hr, .logical hlogical hltype hrtype⟩
  split at h
  · rename_i harithmetic
    simp only [bind_eq_ok, checkOperand_eq_ok, asScalar_eq_ok, pure, Except.pure,
      Except.ok.injEq] at h
    obtain ⟨_, hltype, _, hrtype, _, ⟨hl, rfl⟩, _, ⟨hr, rfl⟩, rfl⟩ := h
    exact ⟨_, rfl, hl, hr, .arithmetic harithmetic hltype hrtype⟩
  · simp only [bind_eq_ok, checkComparable_eq_ok, asScalar_eq_ok, pure, Except.pure,
      Except.ok.injEq] at h
    obtain ⟨_, htypes, _, ⟨hl, rfl⟩, _, ⟨hr, rfl⟩, rfl⟩ := h
    refine ⟨_, rfl, hl, hr, .comparison ?_ htypes⟩
    cases op <;> simp_all [BinaryOp.isLogical, BinaryOp.isArithmetic, BinaryOp.isComparison]

theorem and_eq_ok (h : and l r = .ok s) : s = binary .and l r .boolean := by
  obtain ⟨type, rfl, -, -, htypes⟩ := binaryOf_eq_ok h
  generalize l.type = a, r.type = b at htypes
  cases htypes with
  | logical => rfl
  | arithmetic hop => cases hop
  | comparison => rfl

theorem isNullOf_eq_ok {negated : Bool} (h : isNullOf e negated = .ok s) :
    s = isNull e negated ∧ e.isRowConst = false := by
  simp only [isNullOf, bind_eq_ok, asScalar_eq_ok, pure, Except.pure, Except.ok.injEq] at h
  obtain ⟨_, ⟨hscalar, rfl⟩, rfl⟩ := h
  exact ⟨rfl, hscalar⟩

theorem betweenOf_eq_ok {low high : Expr} {negated : Bool}
    (h : betweenOf e low high negated = .ok s) :
    s = between e low high negated ∧ e.isRowConst = false ∧ low.isRowConst = false ∧
      high.isRowConst = false := by
  simp only [betweenOf, bind_eq_ok, asScalar_eq_ok, pure, Except.pure, Except.ok.injEq] at h
  obtain ⟨_, -, _, -, _, ⟨he, rfl⟩, _, ⟨hlow, rfl⟩, _, ⟨hhigh, rfl⟩, rfl⟩ := h
  exact ⟨rfl, he, hlow, hhigh⟩

theorem inListOf_eq_ok {list : Expr} {negated : Bool} (h : inListOf e list negated = .ok s) :
    ∃ items, list = rowConst items ∧ s = inList e list negated ∧ e.isRowConst = false := by
  unfold inListOf at h
  split at h
  · rename_i items
    simp only [bind_eq_ok, asScalar_eq_ok, pure, Except.pure, Except.ok.injEq] at h
    obtain ⟨_, -, _, ⟨hscalar, rfl⟩, rfl⟩ := h
    exact ⟨items, rfl, rfl, hscalar⟩
  · exact absurd h throw_ne_ok

/-- A pattern match is made just of text or null that is no row constant, with a pattern that
compiles. -/
theorem likeOf_eq_ok {engine : Regex.Engine} {pattern : String} {negated ignoreCase : Bool} :
    likeOf engine e pattern negated ignoreCase = .ok s ↔
      (e.type = .text ∨ e.type = .null) ∧ e.isRowConst = false ∧
        ∃ regex, engine.compile (Like.regexOf engine.escape pattern) ignoreCase = .ok regex ∧
          s = like e pattern regex negated := by
  unfold likeOf
  have htype : (e.type != .text && e.type != .null) = true ↔
      ¬ (e.type = .text ∨ e.type = .null) := by simp
  by_cases htext : e.type = .text ∨ e.type = .null
  · rw [if_neg (fun h => htype.mp h htext)]
    cases engine.compile (Like.regexOf engine.escape pattern) ignoreCase with
    | error reason => simp
    | ok regex =>
      simp only [bind_eq_ok, asScalar_eq_ok, pure, Except.pure, Except.ok.injEq]
      constructor
      · rintro ⟨_, ⟨hscalar, rfl⟩, rfl⟩
        exact ⟨htext, hscalar, regex, rfl, rfl⟩
      · rintro ⟨-, hscalar, _, rfl, rfl⟩
        exact ⟨e, ⟨hscalar, rfl⟩, rfl⟩
  · rw [if_pos (htype.mpr htext)]
    simp [htext]

theorem castOf_eq_ok {target : DataType} (h : castOf e target = .ok s) :
    s = cast e target ∧ e.isRowConst = false := by
  simp only [castOf, bind_eq_ok, asScalar_eq_ok, pure, Except.pure, Except.ok.injEq] at h
  obtain ⟨_, ⟨hscalar, rfl⟩, rfl⟩ := h
  exact ⟨rfl, hscalar⟩

theorem columnAt_eq_ok {schema : Schema} {i : Nat} (h : columnAt schema i = .ok s) :
    ∃ c, schema.columns[i]? = some c ∧ s = column i c.type c.name := by
  unfold columnAt at h
  split at h
  · rename_i c hc
    exact ⟨c, hc, (Except.ok.inj h).symm⟩
  · cases h

theorem columnNamed_eq_ok {schema : Schema} {name : String} (h : columnNamed schema name = .ok s) :
    ∃ i, columnAt schema i = .ok s := by
  obtain ⟨i, -, hs⟩ := bind_eq_ok.mp h
  exact ⟨i, hs⟩

theorem branchOf_eq_ok {type : DataType} {condition result : Expr} {branch : Expr × Expr}
    (h : branchOf type condition result = .ok branch) :
    branch = (condition, widen type result) ∧ condition.isRowConst = false ∧
      result.isRowConst = false := by
  simp only [branchOf, bind_eq_ok, asScalar_eq_ok, asCondition_eq_ok, pure, Except.pure,
    Except.ok.injEq] at h
  obtain ⟨_, ⟨hresult, rfl⟩, _, ⟨-, hcondition, rfl⟩, rfl⟩ := h
  exact ⟨rfl, hcondition, hresult⟩

theorem mapM_branchOf_eq_ok {type : DataType} {branches checked : List (Expr × Expr)}
    (h : (branches.mapM fun (condition, result) => branchOf type condition result) = .ok checked) :
    checked = branches.map (fun b => (b.1, widen type b.2)) ∧
      ∀ b ∈ branches, b.1.isRowConst = false ∧ b.2.isRowConst = false := by
  induction branches generalizing checked with
  | nil =>
    obtain rfl := mapM_nil_eq_ok.mp h
    simp
  | cons b rest ih =>
    obtain ⟨first, others, hfirst, hothers, rfl⟩ := mapM_cons_eq_ok.mp h
    obtain ⟨rfl, hscalars⟩ := branchOf_eq_ok hfirst
    obtain ⟨rfl, hrest⟩ := ih hothers
    refine ⟨rfl, ?_⟩
    rw [List.forall_mem_cons]
    exact ⟨hscalars, hrest⟩

/-- All branches and the `ELSE` are cast to one type. -/
theorem caseWhenOf_eq_ok {branches : List (Expr × Expr)} {otherwise : Option Expr}
    (h : caseWhenOf branches otherwise = .ok s) :
    ∃ type, s = caseWhen (branches.map fun b => (b.1, widen type b.2))
        (otherwise.map (widen type)) type ∧
      (∀ b ∈ branches, b.1.isRowConst = false ∧ b.2.isRowConst = false) ∧
      ∀ e ∈ otherwise, e.isRowConst = false := by
  unfold caseWhenOf at h
  dsimp only at h
  split at h
  · exact absurd h throw_bind_ne_ok
  obtain ⟨type, -, h⟩ := bind_eq_ok.mp h
  obtain ⟨checked, hchecked, h⟩ := bind_eq_ok.mp h
  obtain ⟨rfl, hscalars⟩ := mapM_branchOf_eq_ok hchecked
  cases otherwise with
  | none => exact ⟨type, (Except.ok.inj h).symm, hscalars, by simp⟩
  | some e =>
    obtain ⟨scalar, hscalar, hs⟩ := bind_eq_ok.mp h
    obtain ⟨helse, rfl⟩ := asScalar_eq_ok.mp hscalar
    exact ⟨type, (Except.ok.inj hs).symm, hscalars, by simpa using helse⟩

end Expr

/-- A call goes to a function of the registry with a parameter for each argument. -/
theorem Registry.resolve_eq_ok {registry : Registry} {name : String} {types : List DataType}
    {f : ScalarFunction} (h : registry.resolve name types = .ok f) :
    f ∈ registry.functions ∧ f.params.length = types.length := by
  unfold resolve at h
  dsimp only at h
  split at h
  · cases h
  split at h
  · rename_i g hselect
    obtain rfl := Except.ok.inj h
    have hfound : g ∈ registry.overloads (lowerCase name) ∧ g.params.length = types.length := by
      rcases Option.or_eq_some_iff.mp hselect with hexact | ⟨-, haccepts⟩
      · have hsame := List.find?_some hexact
        exact ⟨List.mem_of_find?_eq_some hexact, by simp [beq_iff_eq.mp hsame]⟩
      · have haccepted := List.find?_some haccepts
        simp only [ScalarFunction.acceptsAll, Bool.and_eq_true, beq_iff_eq] at haccepted
        exact ⟨List.mem_of_find?_eq_some haccepts, haccepted.1⟩
    exact ⟨(List.mem_filter.mp hfound.1).1, hfound.2⟩
  · cases h

namespace Expr

theorem mapM_widen_eq_ok {context : String} {params : List DataType} {args bound : List Expr}
    (hlength : params.length = args.length)
    (h : ((args.zip params).mapM fun (arg, declared) => do
      return widen declared (← asScalar context arg)) = .ok bound) :
    bound = List.zipWith widen params args ∧ ∀ a ∈ args, a.isRowConst = false := by
  induction args generalizing params bound with
  | nil =>
    obtain rfl := List.length_eq_zero_iff.mp hlength
    obtain rfl := mapM_nil_eq_ok.mp h
    simp
  | cons a args ih =>
    cases params with
    | nil => cases hlength
    | cons p params =>
      obtain ⟨first, others, hfirst, hothers, rfl⟩ := mapM_cons_eq_ok.mp h
      simp only [bind_eq_ok, asScalar_eq_ok, pure, Except.pure, Except.ok.injEq] at hfirst
      obtain ⟨_, ⟨hscalar, rfl⟩, rfl⟩ := hfirst
      obtain ⟨rfl, hrest⟩ := ih (Nat.succ.inj hlength) hothers
      refine ⟨rfl, ?_⟩
      rw [List.forall_mem_cons]
      exact ⟨hscalar, hrest⟩

/-- The call goes to a registered function, with each argument cast to the type of its parameter. -/
theorem callOf_eq_ok {registry : Registry} {name : String} {args : List Expr} {s : Expr}
    (h : callOf registry name args = .ok s) :
    ∃ f, s = call f (List.zipWith widen f.params args) ∧ f ∈ registry.functions ∧
      f.params.length = args.length ∧ ∀ a ∈ args, a.isRowConst = false := by
  obtain ⟨f, hf, h⟩ := bind_eq_ok.mp h
  obtain ⟨bound, hbound, h⟩ := bind_eq_ok.mp h
  obtain ⟨hmem, hlength⟩ := Registry.resolve_eq_ok hf
  rw [List.length_map] at hlength
  obtain ⟨rfl, hscalars⟩ := mapM_widen_eq_ok hlength hbound
  exact ⟨f, (Except.ok.inj h).symm, hmem, hlength, hscalars⟩

/-- What expressions are made from: the schemas that columns are taken from, the registries that
calls go to, and the extensions. -/
structure Scope where
  schemas : Schema → Prop
  registries : Registry → Prop
  extensions : Extension → Prop

def Scope.any : Scope := ⟨fun _ => True, fun _ => True, fun _ => True⟩

def Scope.over (registry : Registry) (schema : Schema) (extensions : Extension → Prop) : Scope :=
  ⟨(· = schema), (· = registry), extensions⟩

/-- Expressions that are made by the constructors alone. -/
inductive ConstructedIn (scope : Scope) : Expr → Prop where
  | columnAt {schema : Schema} {i : Nat} {s : Expr} (hschema : scope.schemas schema)
      (h : columnAt schema i = .ok s) : ConstructedIn scope s
  | columnNamed {schema : Schema} {name : String} {s : Expr} (hschema : scope.schemas schema)
      (h : columnNamed schema name = .ok s) : ConstructedIn scope s
  | const (v : Value) : ConstructedIn scope (const v)
  | rowConst (values : List Value) : ConstructedIn scope (rowConst values)
  | not {e s : Expr} (he : ConstructedIn scope e) (h : Expr.not e = .ok s) : ConstructedIn scope s
  | negate {e s : Expr} (he : ConstructedIn scope e) (h : Expr.negate e = .ok s) :
      ConstructedIn scope s
  | binary {op : BinaryOp} {l r s : Expr} (hl : ConstructedIn scope l) (hr : ConstructedIn scope r)
      (h : binaryOf op l r = .ok s) : ConstructedIn scope s
  | isNull {e s : Expr} {negated : Bool} (he : ConstructedIn scope e)
      (h : isNullOf e negated = .ok s) : ConstructedIn scope s
  | between {e low high s : Expr} {negated : Bool} (he : ConstructedIn scope e)
      (hlow : ConstructedIn scope low) (hhigh : ConstructedIn scope high)
      (h : betweenOf e low high negated = .ok s) : ConstructedIn scope s
  | inList {e list s : Expr} {negated : Bool} (he : ConstructedIn scope e)
      (hlist : ConstructedIn scope list) (h : inListOf e list negated = .ok s) :
      ConstructedIn scope s
  | like {engine : Regex.Engine} {e s : Expr} {pattern : String} {negated ignoreCase : Bool}
      (he : ConstructedIn scope e) (h : likeOf engine e pattern negated ignoreCase = .ok s) :
      ConstructedIn scope s
  | cast {e s : Expr} {target : DataType} (he : ConstructedIn scope e)
      (h : castOf e target = .ok s) : ConstructedIn scope s
  | caseWhen {branches : List (Expr × Expr)} {otherwise : Option Expr} {s : Expr}
      (hconditions : ∀ b ∈ branches, ConstructedIn scope b.1)
      (hresults : ∀ b ∈ branches, ConstructedIn scope b.2)
      (helse : ∀ e ∈ otherwise, ConstructedIn scope e)
      (h : caseWhenOf branches otherwise = .ok s) : ConstructedIn scope s
  | call {registry : Registry} {name : String} {args : List Expr} {s : Expr}
      (hregistry : scope.registries registry) (hargs : ∀ a ∈ args, ConstructedIn scope a)
      (h : callOf registry name args = .ok s) : ConstructedIn scope s
  | extension (node : Extension) (hnode : scope.extensions node) :
      ConstructedIn scope (extension node)

/-- Expressions that are made by the constructors alone, over any schemas and registries, with any
extensions. -/
abbrev Constructed (e : Expr) : Prop := e.ConstructedIn .any

/-- An operator node was made by the constructor of operators, from sides that were made too. -/
theorem ConstructedIn.of_binary {scope : Scope} {op : BinaryOp} {type : DataType}
    (h : (Expr.binary op l r type).ConstructedIn scope) :
    l.ConstructedIn scope ∧ r.ConstructedIn scope ∧
      binaryOf op l r = .ok (Expr.binary op l r type) := by
  cases h with
  | columnAt _ h =>
    obtain ⟨_, -, hs⟩ := columnAt_eq_ok h
    cases hs
  | columnNamed _ h =>
    obtain ⟨_, h⟩ := columnNamed_eq_ok h
    obtain ⟨_, -, hs⟩ := columnAt_eq_ok h
    cases hs
  | not _ h => cases (not_eq_ok h).1
  | negate _ h => cases (negate_eq_ok h).1
  | binary hl hr h =>
    obtain ⟨_, hs, -⟩ := binaryOf_eq_ok h
    cases hs
    exact ⟨hl, hr, h⟩
  | isNull _ h => cases (isNullOf_eq_ok h).1
  | between _ _ _ h => cases (betweenOf_eq_ok h).1
  | inList _ _ h =>
    obtain ⟨_, -, hs, -⟩ := inListOf_eq_ok h
    cases hs
  | like _ h =>
    obtain ⟨-, -, _, -, hs⟩ := likeOf_eq_ok.mp h
    cases hs
  | cast _ h => cases (castOf_eq_ok h).1
  | caseWhen _ _ _ h =>
    obtain ⟨_, hs, -⟩ := caseWhenOf_eq_ok h
    cases hs
  | call _ _ h =>
    obtain ⟨_, hs, -⟩ := callOf_eq_ok h
    cases hs

end Expr

end RowEngine
