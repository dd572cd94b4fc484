import RowEngine.Proofs.Expr.Failing
import RowEngine.Proofs.Expr.Inside
import RowEngine.Proofs.Join.Planning
import RowEngine.Proofs.Value.Conforming

/-!
# Joins stay inside the joined row

The columns of a join condition are checked once, on the tree as it comes. What is evaluated later
is put together from its conjuncts, and the keys are read from two rows by columns that were counted
anew. Neither ever asks for a column that is not there, whatever tree the condition is.
-/

namespace RowEngine

namespace Expr

variable {e c : Expr}

theorem within_of_mem_conjuncts (hc : c ∈ e.conjuncts) : Within c e := by
  fun_induction conjuncts e with
  | case1 left right type ihl ihr =>
    rcases List.mem_append.mp hc with hc | hc
    · exact .child (by simp [children]) (ihl hc)
    · exact .child (by simp [children]) (ihr hc)
  | case2 e =>
    obtain rfl := List.mem_singleton.mp hc
    exact .self

/-- The columns of an expression that reads none outside rows of some width are in every row that
has the columns up to there. -/
theorem staysInside_of_stray? {width : Nat} {schema : Schema} {row : RowView}
    (hinside : e.stray? width = none) (hcalls : e.CallsInside)
    (hrow : ∀ i < width, ∃ v, row.value i = some v) (hc : Within c e) :
    StaysInside (c.eval schema row).result := by
  refine staysInside_eval (hcalls.of_within hc) fun id type name hcolumn => hrow id ?_
  exact lt_of_stray?_eq_none hinside (mem_references_of_within (hcolumn.trans hc))

end Expr

namespace JoinPlan

variable {left right : Schema} {condition : Expr} {targets : Option (List Target)}
  {plan : JoinPlan}

/-- Neither the condition of a plan, taken apart as it is, nor the keys ask for a column that the
pair of rows does not have. -/
structure ReadsInside (plan : JoinPlan) (f : Frame) : Prop where
  qual : StaysInside (plan.qual.eval plan.input f.view).result
  qual_holds : StaysInside (plan.qual.holds plan.input f.view).result
  filter : ∀ filter ∈ plan.filter, StaysInside (filter.eval plan.input f.view).result
  admits : StaysInside (plan.admits f.left f.right)
  leftKey : ∃ key, keyOf f.left plan.leftKeys = .ok key
  rightKey : ∃ key, keyOf f.right plan.rightKeys = .ok key

/-- A plan that was made reads no column outside a pair of rows that are as wide as their schemas,
whatever the values in them are, unless a function or an extension in the condition says it did. -/
theorem reads_inside (hplan : make left right condition targets = .ok plan)
    (hcalls : condition.CallsInside) (f : Frame) (hleft : f.left.length = left.size)
    (hright : f.right.length = right.size) : plan.ReadsInside f := by
  obtain ⟨pairs, hjoins⟩ := joins_of_make hplan
  have hrow : ∀ i < (left ++ right).size, ∃ v, f.view.value i = some v := by
    intro i hi
    rw [Schema.size_append, ← hleft, ← hright] at hi
    exact f.exists_value hi
  have hconjunct {c : Expr} (hc : c ∈ condition.conjuncts) :
      StaysInside (c.eval plan.input f.view).result :=
    Expr.staysInside_of_stray? hjoins.inside hcalls hrow (Expr.within_of_mem_conjuncts hc)
  have hqual : StaysInside (plan.qual.eval plan.input f.view).result :=
    Expr.failsOnly_conjoin hjoins.qual fun c hc => hconjunct (Expr.mem_of_mem_quals hc)
  have hfilter : ∀ filter ∈ plan.filter, StaysInside (filter.eval plan.input f.view).result := by
    intro filter hsome
    have hparts := hjoins.filter
    rw [Option.mem_def.mp hsome] at hparts
    exact Expr.failsOnly_conjoin hparts fun c hc => hconjunct (Expr.mem_of_mem_residual hc)
  have hadmits : StaysInside (plan.admits f.left f.right) := by
    unfold admits
    split
    · rename_i filter hsome
      exact Expr.failsOnly_holds (hfilter filter hsome)
    · exact .ok true
  have hleftKeys := hjoins.leftKeys_lt
  have hrightKeys := hjoins.rightKeys_lt
  rw [← hleft] at hleftKeys
  rw [← hright] at hrightKeys
  exact ⟨hqual, Expr.failsOnly_holds hqual, hfilter, hadmits, ⟨_, keyOf_eq_pick hleftKeys⟩,
    ⟨_, keyOf_eq_pick hrightKeys⟩⟩

/-- A condition with a function call and with columns that no schema has named. -/
theorem reads_inside_mixed :
    let left : Schema := ⟨[⟨"a", .integer, false⟩]⟩
    let right : Schema := ⟨[⟨"b", .integer, true⟩]⟩
    let any : ScalarFunction := ⟨"any", [.integer], .boolean, .called, fun _ => .ok .null, 0⟩
    let condition := Expr.binary .and
      (.binary .equal (.column 1 .text "x") (.column 0 .integer "y") .boolean)
      (.call any [.column 1 .date "z"]) .boolean
    let f : Frame := ⟨[.integer 1], [.text "1"]⟩
    condition.CallsInside ∧ ∃ plan, make left right condition none = .ok plan ∧
      plan.ReadsInside f := by
  intro left right any condition f
  have hcolumn (id : Nat) (type : DataType) (name : String) :
      (Expr.column id type name).CallsInside :=
    .of_children nofun nofun nofun
  have hequal : (Expr.binary .equal (.column 1 .text "x") (.column 0 .integer "y")
      .boolean).CallsInside :=
    .of_children (by simp [Expr.children, hcolumn]) nofun nofun
  have hcall : (Expr.call any [.column 1 .date "z"]).CallsInside := by
    refine .of_children (by simp [Expr.children, hcolumn]) ?_ nofun
    rintro _ _ ⟨⟩ values
    exact .ok _
  have hcalls : condition.CallsInside :=
    .of_children (by simp [condition, Expr.children, hequal, hcall]) (by simp [condition])
      (by simp [condition])
  have hplan : make left right condition none = .ok _ := rfl
  exact ⟨hcalls, _, hplan, reads_inside hplan hcalls f rfl rfl⟩

end JoinPlan

end RowEngine
