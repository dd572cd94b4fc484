import RowEngine.Expr.Eval
import RowEngine.Expr.References
import RowEngine.Proofs.Expr.Calls
import RowEngine.Proofs.Failing

/-!
# Evaluation stays inside the row

The nodes of an expression are reached from its root by going from a node to its children. Only a
column can be missing from a row, so an expression all of whose columns are there never fails for a
missing column, unless a function or an extension among its nodes says so itself.
-/

namespace RowEngine

def EvalError.isOutside : EvalError → Bool
  | columnOutOfBounds _ _ => true
  | _ => false

/-- A computation does not fail for a missing column. -/
def StaysInside {α : Type} (x : Except EvalError α) : Prop := FailsOnly (·.isOutside = false) x

namespace Value

theorem staysInside_exactInteger (op : BinaryOp) (n : Int) : StaysInside (exactInteger op n) := by
  unfold exactInteger
  split
  · exact .ok _
  · exact .error rfl

theorem staysInside_integerArithmetic (op : BinaryOp) (a b : Int64) :
    StaysInside (integerArithmetic op a b) := by
  unfold integerArithmetic
  dsimp only
  split
  · exact staysInside_exactInteger _ _
  · exact staysInside_exactInteger _ _
  · exact staysInside_exactInteger _ _
  · split
    · exact .error rfl
    · exact staysInside_exactInteger _ _
  · split
    · exact .error rfl
    · exact FailsOnly.bind (staysInside_exactInteger _ _) fun _ _ => staysInside_exactInteger _ _
  · exact .error rfl

theorem staysInside_floatArithmetic (op : BinaryOp) (v w : Value) (a b : Binary64) :
    StaysInside (floatArithmetic op v w a b) := by
  unfold floatArithmetic
  split
  · exact .ok _
  · exact .ok _
  · exact .ok _
  · split
    · exact .error rfl
    · exact .ok _
  · split
    · exact .error rfl
    · exact .ok _
  · exact .error rfl

theorem staysInside_arithmetic (op : BinaryOp) (v w : Value) : StaysInside (arithmetic op v w) := by
  unfold arithmetic
  split
  · exact .ok _
  split
  · exact staysInside_integerArithmetic _ _ _
  split
  · exact staysInside_floatArithmetic _ _ _ _ _
  · exact .error rfl

theorem staysInside_negate (v : Value) : StaysInside v.negate := by
  unfold negate
  split
  · exact .ok _
  · split
    · exact .error rfl
    · exact .ok _
  · exact .ok _
  · exact .error rfl

theorem staysInside_negation (v : Value) : StaysInside v.negation := by
  unfold negation
  split
  · exact .ok _
  · exact .ok _
  · exact .error rfl

theorem staysInside_cast (v : Value) (target : DataType) : StaysInside (v.cast target) := by
  unfold cast
  split
  · exact .ok _
  split
  · exact .ok _
  · exact .error rfl

end Value

theorem BinaryOp.staysInside_apply (op : BinaryOp) (a b : Value) : StaysInside (op.apply a b) := by
  unfold apply
  split
  any_goals exact .ok _
  exact Value.staysInside_arithmetic _ _ _

theorem ScalarFunction.staysInside_apply {f : ScalarFunction}
    (h : ∀ args, StaysInside (f.body args)) (args : List Value) :
    StaysInside (f.apply args).result := by
  unfold apply
  split
  · exact .ok _
  · exact h args

namespace Expr

theorem Within.trans {c d e : Expr} (hd : Within d c) (hc : Within c e) : Within d e := by
  induction hc with
  | self => exact hd
  | child hmem _ ih => exact .child hmem ih

/-- What the recursion over children rests on. -/
theorem sizeOf_lt_of_mem_children {c e : Expr} (h : c ∈ e.children) : sizeOf c < sizeOf e := by
  cases e with
  | column | const | rowConst | extension => simp [children] at h
  | unary | isNull | cast | like =>
    obtain rfl := List.mem_singleton.mp h
    simp +arith
  | binary | between | inList =>
    simp only [children, List.mem_cons, List.not_mem_nil, or_false] at h
    rcases h with rfl | rfl | rfl <;> simp +arith
  | caseWhen branches otherwise type =>
    rcases mem_children_caseWhen.mp h with ⟨⟨condition, result⟩, hb, rfl | rfl⟩ | rfl
    · have hlt := List.sizeOf_lt_of_mem hb
      simp at hlt ⊢
      omega
    · have hlt := List.sizeOf_lt_of_mem hb
      simp at hlt ⊢
      omega
    · simp +arith
  | call f args =>
    have hlt := List.sizeOf_lt_of_mem (show c ∈ args from h)
    simp
    omega

/-- What holds of a node if it holds of its children holds of all expressions. -/
theorem induction_children {P : Expr → Prop} (h : ∀ e : Expr, (∀ c ∈ e.children, P c) → P e)
    (e : Expr) : P e :=
  h e fun c hc =>
    have := sizeOf_lt_of_mem_children hc
    induction_children h c
termination_by sizeOf e

theorem argReferences_eq_flatMap (args : List Expr) :
    argReferences args = args.flatMap references := by
  induction args with
  | nil => rfl
  | cons e rest ih => rw [argReferences, ih, List.flatMap_cons]

theorem branchReferences_eq_flatMap (branches : List (Expr × Expr)) :
    branchReferences branches = (branches.flatMap fun b => [b.1, b.2]).flatMap references := by
  induction branches with
  | nil => rfl
  | cons b rest ih => simp [branchReferences, ih]

/-- A node that has children reads the columns that they read, in their order. -/
theorem references_eq_flatMap {e : Expr} (h : e.children ≠ []) :
    e.references = e.children.flatMap references := by
  cases e with
  | column | const | rowConst | extension => exact absurd rfl h
  | unary | isNull | cast | like | binary | between | inList => simp [references, children]
  | caseWhen branches otherwise type =>
    rw [references, branchReferences_eq_flatMap]
    cases otherwise <;> simp [children, elseReferences]
  | call f args => rw [references, argReferences_eq_flatMap, children]

/-- Every column among the nodes is one that is read. -/
theorem mem_references_of_within {e : Expr} {id : Nat} {type : DataType} {name : String}
    (h : Within (column id type name) e) : ⟨id, name⟩ ∈ e.references := by
  induction h with
  | self => simp [references]
  | child hc _ ih =>
    rw [references_eq_flatMap (List.ne_nil_of_mem hc)]
    exact List.mem_flatMap.mpr ⟨_, hc, ih⟩

/-- The functions and extensions among the nodes of an expression do not themselves fail for a
missing column. -/
structure CallsInside (e : Expr) : Prop where
  function : ∀ f args, Within (call f args) e → ∀ values, StaysInside (f.body values)
  extension : ∀ node, Within (extension node) e → ∀ schema row, StaysInside (node.body schema row)

/-- Only the root is looked at besides the children. -/
theorem CallsInside.of_children {e : Expr} (hchildren : ∀ c ∈ e.children, c.CallsInside)
    (hfunction : ∀ f args, e = call f args → ∀ values, StaysInside (f.body values))
    (hextension : ∀ node, e = Expr.extension node →
      ∀ schema row, StaysInside (node.body schema row)) : e.CallsInside := by
  constructor
  · intro f args h
    cases h with
    | self => exact hfunction f args rfl
    | child hc h => exact (hchildren _ hc).function f args h
  · intro node h
    cases h with
    | self => exact hextension node rfl
    | child hc h => exact (hchildren _ hc).extension node h

theorem CallsInside.of_within {c e : Expr} (h : e.CallsInside) (hc : Within c e) : c.CallsInside :=
  ⟨fun f args hf => h.function f args (hf.trans hc), fun node hn => h.extension node (hn.trans hc)⟩

section

variable {schema : Schema} {row : RowView}

theorem staysInside_evalAll {es : List Expr}
    (h : ∀ e ∈ es, StaysInside (e.eval schema row).result) :
    StaysInside (evalAll schema row es).result := by
  induction es with
  | nil => exact .ok _
  | cons e rest ih =>
    rw [List.forall_mem_cons] at h
    rw [evalAll]
    exact .traced_bind h.1 fun _ _ => .traced_bind (ih h.2) fun _ _ => .ok _

theorem staysInside_evalBranches {branches : List (Expr × Expr)}
    (h : ∀ b ∈ branches, StaysInside (b.1.eval schema row).result ∧
      StaysInside (b.2.eval schema row).result) :
    StaysInside (evalBranches schema row branches).result := by
  induction branches with
  | nil => exact .ok _
  | cons b rest ih =>
    obtain ⟨condition, result⟩ := b
    rw [List.forall_mem_cons] at h
    rw [evalBranches]
    refine .traced_bind h.1.1 fun v _ => ?_
    split
    · exact .traced_bind h.1.2 fun _ _ => .ok _
    · exact ih h.2

/-- One case for each kind of node: its children stay inside the row, and what is made of their
values does not read it. -/
theorem staysInside_eval {e : Expr} (hcalls : e.CallsInside)
    (hcolumns : ∀ id type name, Within (column id type name) e → ∃ v, row.value id = some v) :
    StaysInside (e.eval schema row).result := by
  induction e using induction_children with
  | h e ih =>
    have hchild {c : Expr} (hc : c ∈ e.children) : StaysInside (c.eval schema row).result :=
      ih c hc (hcalls.of_within (.child hc .self)) fun id type name h =>
        hcolumns id type name (.child hc h)
    clear ih
    cases e with
    | column id type name =>
      obtain ⟨v, hv⟩ := hcolumns id type name .self
      simp only [eval, hv]
      exact .ok v
    | const v => exact .ok v
    | rowConst => exact .error rfl
    | unary op arg =>
      refine .traced_bind (hchild (by simp [children])) fun v _ => ?_
      cases op with
      | not => exact v.staysInside_negation
      | negate => exact v.staysInside_negate
    | binary op left right type =>
      refine .traced_bind (hchild (by simp [children])) fun a _ => ?_
      split
      · exact .ok _
      · exact .traced_bind (hchild (by simp [children])) fun b _ => op.staysInside_apply a b
    | isNull arg negated => exact .traced_bind (hchild (by simp [children])) fun _ _ => .ok _
    | between arg low high negated =>
      refine .traced_bind (hchild (by simp [children])) fun _ _ => ?_
      refine .traced_bind (hchild (by simp [children])) fun _ _ => ?_
      exact .traced_bind (hchild (by simp [children])) fun _ _ => .ok _
    | inList arg list negated =>
      cases list with
      | rowConst items => exact .traced_bind (hchild (by simp [children])) fun _ _ => .ok _
      | _ => exact .error rfl
    | like arg pattern regex negated =>
      refine .traced_bind (hchild (by simp [children])) fun _ _ => ?_
      split
      · exact .ok _
      · exact .ok _
      · exact .error rfl
    | cast arg target =>
      exact .traced_bind (hchild (by simp [children])) fun v _ => v.staysInside_cast target
    | caseWhen branches otherwise type =>
      have hbranches : ∀ b ∈ branches, StaysInside (b.1.eval schema row).result ∧
          StaysInside (b.2.eval schema row).result := fun b hb =>
        ⟨hchild (mem_children_caseWhen.mpr (.inl ⟨b, hb, .inl rfl⟩)),
          hchild (mem_children_caseWhen.mpr (.inl ⟨b, hb, .inr rfl⟩))⟩
      refine .traced_bind (staysInside_evalBranches hbranches) fun v _ => ?_
      cases v with
      | some v => exact .ok v
      | none =>
        cases otherwise with
        | none => exact .ok _
        | some e => exact hchild (mem_children_caseWhen.mpr (.inr rfl))
    | call f args =>
      refine .traced_bind (staysInside_evalAll fun c hc => hchild hc) fun values _ => ?_
      exact ScalarFunction.staysInside_apply (hcalls.function f args .self) values
    | extension node => exact hcalls.extension node .self schema row

end

end Expr

end RowEngine
