import RowEngine.Proofs.Join.Failing
import RowEngine.Proofs.Plan
import RowEngine.Proofs.Plan.Closing

/-!
# Runtime failures of a plan

Over scans, nothing but the evaluation of an expression can fail while a plan runs: scans themselves
never fail, starting over and closing come down to scans, and every other failure of a request for a
row is passed on from an expression. So none of the failures of building turns up at runtime, and no
operator ever runs into a state that it has no answer for.
-/

namespace RowEngine.Plan

open Operator

variable {p : Plan}

/-- The induction is on the tree. Nothing is asked of the rows that an operator hands out. -/
theorem OverScans.serves (h : p.OverScans) :
    ∃ Inv, p.operator.Serves (fun _ => True) (fun e => ∃ cause, e = .evaluation cause) Inv := by
  have hcause {α : Type} {x : Except EvalError α} :
      FailsOnly (fun e => ∃ cause, Failure.evaluation e = .evaluation cause) x :=
    fun e _ => ⟨e, rfl⟩
  induction p with
  | scan relation => exact ⟨_, .scan fun _ _ => trivial⟩
  | scripted script => exact h.elim
  | filter input predicate ih =>
    obtain ⟨Inv, hinput⟩ := ih h
    exact ⟨_, hinput.filter fun _ _ => hcause⟩
  | project input projection ih =>
    obtain ⟨Inv, hinput⟩ := ih h
    exact ⟨_, hinput.project (fun _ _ _ _ => trivial) fun _ _ => hcause⟩
  | limit input count ih =>
    obtain ⟨Inv, hinput⟩ := ih h
    exact ⟨_, hinput.limit count⟩
  | sort input keys ih =>
    obtain ⟨Inv, hinput⟩ := ih h
    exact ⟨_, hinput.sort keys⟩
  | join left right plan ihleft ihright =>
    obtain ⟨InvLeft, hleft⟩ := ihleft h.1
    obtain ⟨InvRight, hright⟩ := ihright h.2
    have hplan : plan.FailsAs (fun _ => True) (fun _ => True)
        fun e => ∃ cause, Failure.evaluation e = .evaluation cause :=
      ⟨fun _ _ => hcause, fun _ _ => hcause, fun _ _ _ _ => hcause, fun _ _ _ _ => hcause,
        fun _ _ _ _ => hcause, fun _ _ => hcause⟩
    exact ⟨_, hleft.leftJoin hright hplan (fun _ _ _ _ _ _ => trivial) fun _ _ _ _ => trivial⟩

/-- What is to be said of a plan that fails in its expressions alone. -/
structure FailsInExpressions (p : Plan) (task : Task p.operator) : Prop where
  rescan : (p.operator.rescan task.state).outcome = .ok ()
  close : (p.operator.close task.state).outcome = .ok ()
  next : ∀ e, (p.operator.next task.stopped task.state).outcome = .error e →
    (∃ cause, e = .evaluation cause) ∧ e.isConstruction = false ∧ ∀ reason, e ≠ .internal reason

/-- Whatever a plan over scans was told before: it starts over and closes without failing, and a
request for a row fails only because the evaluation of an expression does. -/
theorem fails_in_expressions (hscans : p.OverScans) (commands : List Command) :
    p.FailsInExpressions ((Task.start p.operator).run commands) := by
  obtain ⟨Inv, hserves⟩ := hscans.serves
  obtain ⟨Shut, hcloses⟩ := hscans.closes
  constructor
  case rescan => exact (hcloses.rescan _).1
  case close => exact (hcloses.close _).1
  case next =>
    intro e he
    obtain ⟨cause, rfl⟩ := hserves.fails_run commands e he
    exact ⟨⟨cause, rfl⟩, rfl, nofun⟩

/-- A join whose filter divides by zero, started over after its first failure. -/
theorem fails_in_expressions_division :
    let left := scan (.ofIntegers "a" [1])
    let right := scan (.ofIntegers "b" [1])
    let a : Expr := .column 0 .integer "a"
    let b : Expr := .column 1 .integer "b"
    let quotient : Expr := .binary .divide a (.const (.integer 0)) .integer
    let input := left.schema ++ right.schema
    let plan : JoinPlan := ⟨input, .binary .equal a b .boolean,
      some (.binary .equal quotient b .boolean), .identity input, [0], [0], 1⟩
    let p := left.join right plan
    let task := (Task.start p.operator).run [.next, .rescan]
    p.OverScans ∧ p.FailsInExpressions task ∧
      (p.operator.next task.stopped task.state).outcome = .error (.evaluation .divisionByZero) := by
  intro left right a b quotient input plan p task
  have hscans : p.OverScans := ⟨trivial, trivial⟩
  exact ⟨hscans, fails_in_expressions hscans _, by decide +kernel⟩

end RowEngine.Plan
