import RowEngine.Proofs.Expr.Failing
import RowEngine.Proofs.Join.Failing
import RowEngine.Proofs.Plan.Conforming

/-!
# Plans that fail in the data

The constructors of expressions check the types of their parts, and those of operators check the
expressions. What they let pass is evaluated without any failure but those that lie in the data,
with one exception: a row constant is refused under every node but as the list of `IN`, so also on
the sides of a join condition, but not as a whole predicate or a whole target. An operator with such
a root never hands out a row.
-/

namespace RowEngine

/-- If an evaluation failed, it did so for a reason that lies in the data. -/
def Failure.InData (e : Failure) : Prop :=
  ∀ cause, e = .evaluation cause → cause.isDataDependent = true

theorem FailsOnly.inData {α : Type} {x : Except EvalError α}
    (h : FailsOnly (·.isDataDependent = true) x) :
    FailsOnly (fun e => (Failure.evaluation e).InData) x := by
  refine h.mono ?_
  rintro e he _ ⟨⟩
  exact he

/-- An operator that, whatever it is told, hands out rows of its schema and whose evaluations fail
only in the data. -/
def Operator.Supplies (op : Operator) : Prop :=
  ∃ Inv, op.Serves (·.view.Conforms op.schema) Failure.InData Inv

theorem Operator.Supplies.scan {relation : Relation}
    (h : ∀ row ∈ relation.rows, row.view.Conforms relation.schema) :
    (Operator.scan relation).Supplies :=
  ⟨_, .scan h⟩

theorem RowView.Conforms.exists_value {row : RowView} {schema : Schema} (h : row.Conforms schema) :
    ∀ i < row.width, ∃ v, row.value i = some v := by
  intro i hi
  rw [h.width] at hi
  obtain ⟨v, hv, -⟩ := h.fits i schema.columns[i] (List.getElem?_eq_getElem hi)
  exact ⟨v, hv⟩

namespace Projection

variable {p : Projection} {input : Schema} {targets : Option (List Target)} {row : RowView}
  {D : EvalError → Prop}

/-- A row whose columns can be read is written unless a target fails. -/
theorem failsOnly_apply (h : make input targets = .ok p)
    (hrow : ∀ i < row.width, ∃ v, row.value i = some v)
    (htargets : ∀ t ∈ targets.getD [], FailsOnly D (t.expr.eval input row).result) :
    FailsOnly D (p.apply row).result := by
  obtain ⟨rfl, rfl⟩ := make_eq_ok h
  cases hp : p.targets with
  | none =>
    rw [result_apply_of_none hp]
    refine FailsOnly.mapM fun i hi => ?_
    obtain ⟨v, hv⟩ := hrow i (List.mem_range.mp hi)
    rw [readColumn, hv]
    exact .ok v
  | some targets =>
    rw [result_apply_of_targets hp]
    exact FailsOnly.mapM fun t ht => htargets t (by simpa [hp] using ht)

/-- The expressions of the targets. -/
def exprs (p : Projection) : List Expr := (p.targets.getD []).map (·.expr)

/-- For a conforming row, targets that were built and are no row constants write a row that conforms
to the output, or one of them fails for a reason that lies in the data. -/
theorem returns_apply {registry : Registry} (h : make input targets = .ok p)
    (hregistry : ∀ f ∈ registry.functions, f.KeepsType)
    (htargets : ∀ t ∈ targets.getD [], t.expr.Built registry input)
    (hscalars : ∀ e ∈ p.exprs, e.isRowConst = false) (hrow : row.Conforms input) :
    Returns (fun out => out.view.Conforms p.output) (p.apply row).result := by
  rw [exprs, (make_eq_ok h).2, List.forall_mem_map] at hscalars
  have htyped (t : Target) (ht : t ∈ targets.getD []) : t.expr.Typed input row t.expr.type :=
    (htargets t ht).typed hregistry hrow (hscalars t ht)
  cases hout : (p.apply row).result with
  | ok out => exact conforms_apply_of_gives h hrow (fun t ht => (htyped t ht).gives) hout
  | error e =>
    exact failsOnly_apply h hrow.exists_value (fun t ht => (htyped t ht).result.failsOnly) e hout

/-- A row constant has no value, so no row is written. -/
theorem apply_ne_ok_of_isRowConst {e : Expr} (he : e ∈ p.exprs) (hconst : e.isRowConst = true)
    (out : Row) : (p.apply row).result ≠ .ok out := by
  obtain ⟨t, ht, rfl⟩ := List.mem_map.mp he
  obtain ⟨values, hvalues⟩ := Expr.eq_rowConst hconst
  cases hp : p.targets with
  | none => simp [hp] at ht
  | some targets =>
    rw [hp, Option.getD_some] at ht
    rw [result_apply_of_targets hp]
    intro hout
    obtain ⟨i, hi⟩ := List.mem_iff_getElem?.mp ht
    obtain ⟨v, -, heval⟩ := getElem?_of_mapM hout hi
    rw [hvalues, Expr.eval] at heval
    cases heval

end Projection

namespace JoinPlan.Joins

open RowEngine.Expr

variable {plan : JoinPlan} {left right : Schema} {condition : Expr}
  {targets : Option (List Target)} {pairs : List (Nat × Nat)} {D : EvalError → Prop}

/-- A row constant has no conjunct that links the two inputs. -/
theorem isRowConst_eq_false (h : plan.Joins left right condition targets pairs) :
    condition.isRowConst = false := by
  cases hconst : condition.isRowConst with
  | false => rfl
  | true =>
    obtain ⟨values, rfl⟩ := eq_rowConst hconst
    cases h.qual

/-- A join fails on conforming rows as the conjuncts of its condition and its projection do. -/
theorem failsAs (h : plan.Joins left right condition targets pairs)
    (hconjuncts : ∀ c ∈ condition.conjuncts, ∀ row : RowView, row.Conforms (left ++ right) →
      FailsOnly D (c.eval (left ++ right) row).result)
    (hprojection : ∀ row : RowView, row.Conforms (left ++ right) →
      FailsOnly D (plan.projection.apply row).result) :
    plan.FailsAs (·.view.Conforms left) (·.view.Conforms right) D := by
  have hkey {row : Row} {schema : Schema} {ids : List Nat} (hrow : row.view.Conforms schema)
      (hids : ∀ i ∈ ids, i < schema.size) : FailsOnly D (keyOf row ids) := by
    rw [← hrow.width] at hids
    rw [keyOf_eq_pick hids]
    exact .ok _
  have houtput (l r : Row) (hl : l.view.Conforms left) (hr : r.view.Conforms right) :
      FailsOnly D (plan.output l r) :=
    hprojection _ (Frame.conforms (f := ⟨l, r⟩) hl hr)
  constructor
  case leftKey => exact fun l hl => hkey hl h.leftKeys_lt
  case rightKey => exact fun r hr => hkey hr h.rightKeys_lt
  case filter =>
    intro l r hl hr
    have hpair := Frame.conforms (f := ⟨l, r⟩) hl hr
    unfold admits
    cases hfilter : plan.filter with
    | none => exact .ok true
    | some filter =>
      have hsome := h.filter
      rw [hfilter] at hsome
      rw [h.input]
      exact failsOnly_holds (failsOnly_conjoin hsome fun c hc =>
        hconjuncts c (mem_of_mem_residual hc) _ hpair)
  case qual =>
    intro l r hl hr
    have hpair := Frame.conforms (f := ⟨l, r⟩) hl hr
    rw [h.input]
    exact failsOnly_holds (failsOnly_conjoin h.qual fun c hc =>
      hconjuncts c (mem_of_mem_quals hc) _ hpair)
  case output => exact houtput
  case padding =>
    intro l hl
    rw [padding, h.rightWidth]
    exact houtput l _ hl (Row.conforms_nulls right)

end JoinPlan.Joins

namespace Plan

/-- The expressions that an operator evaluates as a whole. The condition of a join is not among
them, because it is taken apart. -/
def roots : Plan → List Expr
  | filter _ predicate => [predicate]
  | project _ projection => projection.exprs
  | join _ _ plan => plan.projection.exprs
  | scan _ | scripted _ | limit _ _ | sort _ _ => []

/-- A filter, a projection or a join that was made of expressions that were built over the rows that
it reads, on top of any operators that hand out such rows. -/
inductive Made (registry : Registry) : Plan → Prop where
  | filter {input p : Plan} {predicate : Expr} (hinput : input.operator.Supplies)
      (hpredicate : predicate.Built registry input.schema) (hp : input.filterBy predicate = .ok p) :
      Made registry p
  | project {input p : Plan} {targets : List Target} (hinput : input.operator.Supplies)
      (htargets : ∀ t ∈ targets, t.expr.Built registry input.schema)
      (hp : input.projectTo targets = .ok p) : Made registry p
  | join {left right p : Plan} {condition : Expr} {targets : Option (List Target)}
      {entry : LogEntry} (hleft : left.operator.Supplies) (hright : right.operator.Supplies)
      (hcondition : condition.Built registry (left.schema ++ right.schema))
      (htargets : ∀ t ∈ targets.getD [], t.expr.Built registry (left.schema ++ right.schema))
      (hp : left.joinOn right condition targets = .ok (p, entry)) : Made registry p

variable {registry : Registry} {p : Plan}

/-- The rows of such a plan are of its schema again, so it may stand under another one. -/
theorem Made.supplies (h : p.Made registry) (hregistry : ∀ f ∈ registry.functions, f.KeepsType)
    (hroots : ∀ e ∈ p.roots, e.isRowConst = false) : p.operator.Supplies := by
  cases h with
  | @filter input _ predicate hinput hpredicate hp =>
    obtain rfl := filterBy_eq_ok hp
    obtain ⟨Inv, hserves⟩ := hinput
    refine ⟨Inv, hserves.filter fun row hrow => ?_⟩
    have htyped := hpredicate.typed hregistry hrow (hroots predicate (by simp [roots]))
    exact (Expr.failsOnly_holds htyped.result.failsOnly).inData
  | @project input _ targets hinput htargets hp =>
    obtain ⟨projection, hmake, rfl⟩ := projectTo_eq_ok hp
    obtain ⟨Inv, hserves⟩ := hinput
    have hwrite {row : RowView} (hrow : row.Conforms input.schema) :=
      Projection.returns_apply hmake hregistry htargets hroots hrow
    refine ⟨Inv, hserves.project (fun row out hrow hout => ?_) fun row hrow => ?_⟩
    · exact (hwrite hrow).of_eq_ok hout
    · exact (hwrite hrow).failsOnly.inData
  | @join left right _ condition targets _ hleft hright hcondition htargets hp =>
    obtain ⟨plan, hplan, rfl⟩ := joinOn_eq_ok hp
    obtain ⟨pairs, hjoins⟩ := JoinPlan.joins_of_make hplan
    obtain ⟨InvLeft, hleft⟩ := hleft
    obtain ⟨InvRight, hright⟩ := hright
    have hwrite {row : RowView} (hrow : row.Conforms (left.schema ++ right.schema)) :=
      Projection.returns_apply hjoins.projection hregistry htargets hroots hrow
    have hfails : plan.FailsAs (·.view.Conforms left.schema) (·.view.Conforms right.schema)
        fun e => (Failure.evaluation e).InData := by
      refine hjoins.failsAs (fun c hc row hrow => ?_) fun row hrow => (hwrite hrow).failsOnly.inData
      obtain ⟨hbuilt, hscalar⟩ := hcondition.of_mem_conjuncts hjoins.isRowConst_eq_false hc
      exact (hbuilt.typed hregistry hrow hscalar).result.failsOnly.inData
    have houtput (l r out : Row) (hl : l.view.Conforms left.schema)
        (hr : r.view.Conforms right.schema) (hout : plan.output l r = .ok out) :
        out.view.Conforms plan.projection.output :=
      (hwrite (Frame.conforms (f := ⟨l, r⟩) hl hr)).of_eq_ok hout
    refine ⟨_, hleft.leftJoin hright hfails houtput ?_⟩
    intro l out hl hout
    rw [JoinPlan.padding, hjoins.rightWidth] at hout
    exact houtput l _ out hl (Row.conforms_nulls right.schema) hout

/-- Under a root that is a row constant, no row gets through, whatever state the plan is in. -/
theorem next_ne_row_of_isRowConst {e : Expr} (he : e ∈ p.roots) (hconst : e.isRowConst = true)
    (stopped : Bool) (s : p.operator.State) (out : Row) :
    (p.operator.next stopped s).outcome ≠ .ok (some out) := by
  cases p with
  | filter input predicate =>
    obtain rfl := List.mem_singleton.mp he
    obtain ⟨values, rfl⟩ := Expr.eq_rowConst hconst
    intro hout
    cases Filter.holds_of_next hout
  | project input projection =>
    intro hout
    have hwrite (row out : Row) (_ : True) : (projection.apply row.view).result = .ok out → False :=
      Projection.apply_ne_ok_of_isRowConst he hconst out
    exact (input.operator.emits_any.project hwrite).row stopped s out trivial hout
  | join left right plan =>
    intro hout
    have houtput (l r out : Row) (_ _ : True) : plan.output l r = .ok out → False :=
      Projection.apply_ne_ok_of_isRowConst he hconst out
    have hemits := left.operator.emits_any.leftJoin right.operator.emits_any houtput
      fun l out _ => houtput l _ out trivial trivial
    exact hemits.row stopped s out ⟨trivial, trivial, fun _ _ _ _ _ _ => trivial,
      fun _ _ _ _ => trivial⟩ hout
  | scan _ => cases he
  | scripted _ => cases he
  | limit _ _ => cases he
  | sort _ _ => cases he

open Operator

/-- Whatever has been asked of such a plan before: if none of its roots is a row constant, no
evaluation fails but for a reason that lies in the data, and if one is, no row is handed out. The
functions other than the built-in ones have to keep their types. -/
theorem fails_in_data (hmade : p.Made registry)
    (hregistry : ∀ f ∈ registry.functions, f ∈ Builtin.registry.functions ∨ f.KeepsType)
    (commands : List Command) :
    let task := (Task.start p.operator).run commands
    let outcome := (p.operator.next task.stopped task.state).outcome
    ((∀ e ∈ p.roots, e.isRowConst = false) → ∀ cause,
      outcome = .error (.evaluation cause) → cause.isDataDependent = true) ∧
    ((∃ e ∈ p.roots, e.isRowConst = true) → ∀ row, outcome ≠ .ok (some row)) := by
  intro task outcome
  constructor
  · intro hroots cause hcause
    obtain ⟨Inv, hserves⟩ :=
      hmade.supplies (fun f hf => ScalarFunction.keepsType_of_builtin (hregistry f hf)) hroots
    exact hserves.fails_run commands _ hcause cause rfl
  · rintro ⟨e, he, hconst⟩ row
    exact next_ne_row_of_isRowConst he hconst task.stopped task.state row

/-- A filter that divides by its column, on a row in which that is zero. -/
theorem fails_in_data_division :
    let input := scan (.ofIntegers "n" [0])
    let quotient : Expr := .binary .divide (.const (.integer 10)) (.column 0 .integer "n") .integer
    let p := input.filter (.binary .equal quotient (.const (.integer 2)) .boolean)
    p.Made Builtin.registry ∧
      (p.operator.next false p.operator.start).outcome = .error (.evaluation .divisionByZero) ∧
      EvalError.divisionByZero.isDataDependent = true := by
  intro input quotient p
  have hquotient : Expr.binaryOf .divide (.const (.integer 10)) (.column 0 .integer "n") =
      .ok quotient := rfl
  have hequal : Expr.binaryOf .equal quotient (.const (.integer 2)) =
      .ok (.binary .equal quotient (.const (.integer 2)) .boolean) := rfl
  have hinput : input.operator.Supplies := .scan (Relation.conforms_ofIntegers "n" [0])
  have hmade : p.Made Builtin.registry :=
    have hcolumn := Expr.ConstructedIn.columnAt (i := 0) rfl rfl
    .filter hinput (.binary (.binary (.const _) hcolumn hquotient) (.const _) hequal) rfl
  have hout : (p.operator.next false p.operator.start).outcome =
      .error (.evaluation .divisionByZero) := by
    decide +kernel
  have hroots : ∀ e ∈ p.roots, e.isRowConst = false := by simp [p, roots, Expr.isRowConst]
  exact ⟨hmade, hout, (fails_in_data hmade (fun _ hf => .inl hf) []).1 hroots _ hout⟩

/-- A row constant is let pass as a predicate, and the filter fails on its first row, which conforms
to the schema. -/
theorem not_fails_in_data_rowConst :
    let input := scan (.ofIntegers "a" [1])
    let p := input.filter (.rowConst [.boolean true])
    p.Made Builtin.registry ∧
      (p.operator.next false p.operator.start).outcome =
        .error (.evaluation (.notScalar "row constant")) ∧
      (EvalError.notScalar "row constant").isDataDependent = false := by
  intro input p
  have hinput : input.operator.Supplies := .scan (Relation.conforms_ofIntegers "a" [1])
  have hp : input.filterBy (.rowConst [.boolean true]) = .ok p := rfl
  exact ⟨.filter hinput (.rowConst _) hp, by decide +kernel, rfl⟩

end Plan

end RowEngine
