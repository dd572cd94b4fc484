import RowEngine.Proofs.Join.Planning
import RowEngine.Proofs.Plan

/-!
# Building a plan

Whatever is handed to the constructors, also trees of nodes that no constructor has checked, a
refusal says that something cannot be built. A join that is built has keys on both sides that fit
each other.
-/

namespace RowEngine

theorem Target.refuses_column (schema : Schema) (name : String) : Refuses (column schema name) :=
  (Expr.refuses_columnNamed schema name).bind fun _ _ => .ok _

theorem SortKey.refuses_resolveAll (schema : Schema) (defaultNullsFirst : Bool)
    (requests : List Request) : Refuses (resolveAll schema defaultNullsFirst requests) := by
  unfold resolveAll
  split
  · exact .error rfl
  · exact .mapM fun request _ => (schema.refuses_resolve request.name).bind fun _ _ => .ok _

namespace Plan

/-- What a constructor of operators makes of any parts, be it a plan or a refusal. -/
inductive Attempt : Except Failure Plan → Prop where
  | filter (input : Plan) (predicate : Expr) : Attempt (input.filterBy predicate)
  | project (input : Plan) (targets : List Target) : Attempt (input.projectTo targets)
  | sort (settings : Settings) (input : Plan) (requests : List SortKey.Request) :
      Attempt (sortBy settings input requests)
  | join (left right : Plan) (condition : Expr) (targets : Option (List Target)) :
      Attempt ((left.joinOn right condition targets).map Prod.fst)

theorem refuses_joinOn (left right : Plan) (condition : Expr) (targets : Option (List Target)) :
    Refuses (left.joinOn right condition targets) :=
  (JoinPlan.refuses_make left.schema right.schema condition targets).bind fun _ _ => .ok _

/-- The case split is on the constructor that is tried. -/
theorem Attempt.refuses {x : Except Failure Plan} (h : Attempt x) : Refuses x := by
  cases h with
  | filter input predicate =>
    unfold filterBy
    split
    · exact .ok _
    · exact .error rfl
  | project input targets =>
    exact (Projection.refuses_make input.schema (some targets)).bind fun _ _ => .ok _
  | sort settings input requests =>
    exact (SortKey.refuses_resolveAll input.schema settings.nullsFirst requests).bind fun _ _ =>
      .ok _
  | join left right condition targets => exact (refuses_joinOn left right condition targets).map _

/-- The constructors refuse their parts only with failures of building; and for any condition, the
making of a join never ends in a state that it has no answer for, and a join that is made has one
pair of keys at least, each of two columns that are there and have one type. -/
theorem construction_refuses :
    (∀ x, Expr.Attempt x → Refuses x) ∧
    (∀ schema name, Refuses (Target.column schema name)) ∧
    (∀ schema targets, Refuses (Projection.make schema targets)) ∧
    (∀ schema nullsFirst requests, Refuses (SortKey.resolveAll schema nullsFirst requests)) ∧
    (∀ x, Attempt x → Refuses x) ∧
    ∀ (left right : Plan) (condition : Expr) (targets : Option (List Target)),
      (∀ reason, left.joinOn right condition targets ≠ .error (.internal reason)) ∧
      ∀ p entry, left.joinOn right condition targets = .ok (p, entry) →
        ∃ plan, p = left.join right plan ∧ plan.KeysMatch left.schema right.schema := by
  refine ⟨fun _ h => h.refuses, Target.refuses_column, Projection.refuses_make,
    SortKey.refuses_resolveAll, fun _ h => h.refuses, ?_⟩
  intro left right condition targets
  constructor
  · intro reason h
    cases refuses_joinOn left right condition targets _ h
  · intro p entry h
    obtain ⟨plan, hplan, rfl⟩ := joinOn_eq_ok h
    obtain ⟨pairs, hjoins⟩ := JoinPlan.joins_of_make hplan
    exact ⟨plan, rfl, hjoins.keysMatch⟩

/-- A join on a column that is not there, and a join on columns that lie about their types. -/
theorem construction_refuses_raw :
    let left := scan (.ofIntegers "a" [1])
    let right := scan (.ofIntegers "b" [2])
    let input := left.schema ++ right.schema
    let stray : Expr := .binary .equal (.column 0 .text "a") (.column 9 .date "x") .boolean
    let liar : Expr := .binary .equal (.column 1 .text "b") (.column 0 .date "a") .boolean
    let plan : JoinPlan := ⟨input, liar, none, .identity input, [0], [0], 1⟩
    left.joinOn right stray none = .error (.columnNotFound (.outsideJoin "x" 9 2)) ∧
      (Failure.columnNotFound (.outsideJoin "x" 9 2)).isConstruction = true ∧
      left.joinOn right liar none = .ok (left.join right plan, plan.logEntry) ∧
      plan.KeysMatch left.schema right.schema := by
  intro left right input stray liar plan
  obtain ⟨-, -, -, -, hrefuses, hjoin⟩ := construction_refuses
  have hstray : left.joinOn right stray none = .error (.columnNotFound (.outsideJoin "x" 9 2)) :=
    rfl
  have hattempt := hrefuses _ (.join left right stray none)
  rw [hstray] at hattempt
  have hliar : left.joinOn right liar none = .ok (left.join right plan, plan.logEntry) := rfl
  obtain ⟨made, hmade, hkeys⟩ := (hjoin left right liar none).2 _ _ hliar
  obtain ⟨-, -, rfl⟩ := Plan.join.inj hmade
  exact ⟨hstray, hattempt _ rfl, hliar, hkeys⟩

end Plan

end RowEngine
