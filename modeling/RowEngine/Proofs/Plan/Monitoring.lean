import RowEngine.Plan
import RowEngine.Proofs.Join.Step

/-!
# Plans whose leaves remember

What a plan asks of its leaves is seen when each leaf remembers the commands it gets. Operators of
all kinds do the same over inputs that know more, so the plan itself does not notice.
-/

namespace RowEngine

/-- A filter goes on after a row on which its predicate is false. -/
theorem Filter.next_dropped {child : Operator} {predicate : Expr} {stopped : Bool} {s : child.State}
    {row : Row} (hrow : (child.next stopped s).outcome = .ok (some row))
    (hverdict : (predicate.holds child.schema row.view).outcome = .ok false) :
    next child predicate stopped s =
      (next child predicate stopped (child.next stopped s).state).after
        ((child.next stopped s).events ++ (predicate.holds child.schema row.view).events) := by
  rw [next]
  split
  · simp_all
  · simp_all
  · rename_i row' hrow'
    obtain rfl : row = row' := by simpa [hrow] using hrow'
    simp only [hverdict]

namespace Operator.Extends

variable {op base : Operator} {forget : op.State → base.State}

/-- But for the rows it drops, a filter asks its input once, and nothing else in the answer depends
on what the input remembers. -/
theorem filter_next (h : op.Extends base forget) (hschema : op.schema = base.schema)
    (predicate : Expr) (stopped : Bool) (s : op.State) :
    (Filter.next op predicate stopped s).lift forget =
      Filter.next base predicate stopped (forget s) := by
  fun_induction Filter.next op predicate stopped s with
  | case5 s step row hout verdict events hverdict ih =>
    have hbase : (predicate.holds base.schema row.view).outcome = .ok false := hschema ▸ hverdict
    rw [Filter.next_dropped ((h.outcome_next stopped s).trans hout) hbase, ← h.next,
      Step.state_lift, ← ih, ← hschema]
    rfl
  | _ =>
    rw [Filter.next, ← h.next]
    dsimp only [Step.outcome_lift]
    split <;> simp_all +zetaDelta [Step.lift]

theorem filter (h : op.Extends base forget) (hschema : op.schema = base.schema)
    (predicate : Expr) : (op.filter predicate).Extends (base.filter predicate) forget :=
  ⟨h.start, h.filter_next hschema predicate, h.rescan, h.close⟩

theorem project_next (h : op.Extends base forget) (projection : Projection) (stopped : Bool)
    (s : op.State) : (Project.next op projection stopped s).lift forget =
      Project.next base projection stopped (forget s) := by
  unfold Project.next
  rw [← h.next]
  dsimp only [Step.outcome_lift]
  split <;> rfl

theorem project (h : op.Extends base forget) (projection : Projection) :
    (op.project projection).Extends (base.project projection) forget :=
  ⟨h.start, h.project_next projection, h.rescan, h.close⟩

end Operator.Extends

def Limit.State.map {σ τ : Type} (f : σ → τ) (s : State σ) : State τ := ⟨f s.input, s.emitted⟩

namespace Operator.Extends

variable {op base : Operator} {forget : op.State → base.State}

theorem limit_next (h : op.Extends base forget) (count : Nat) (stopped : Bool)
    (s : Limit.State op.State) : (Limit.next op count stopped s).lift (Limit.State.map forget) =
      Limit.next base count stopped (s.map forget) := by
  unfold Limit.next
  simp only [Limit.State.map, ← h.next]
  split <;> rfl

theorem limit (h : op.Extends base forget) (count : Nat) :
    (op.limit count).Extends (base.limit count) (Limit.State.map forget) where
  start := by simp only [Operator.limit, Limit.State.map, h.start]
  next := h.limit_next count
  rescan s := by
    simp only [Operator.limit, Limit.rescan, Limit.State.map, ← h.rescan]
    rfl
  close s := by
    simp only [Operator.limit, Limit.State.map, ← h.close]
    rfl

theorem collect (h : op.Extends base forget) (stopped : Bool) (s : op.State) :
    (op.collect stopped s).lift forget = base.collect stopped (forget s) := by
  unfold Operator.collect
  rw [← h.fold]
  rfl

end Operator.Extends

def Sorting.State.map {σ τ : Type} (f : σ → τ) (s : State σ) : State τ :=
  ⟨f s.input, s.phase, s.closed⟩

namespace Operator.Extends

variable {op base : Operator} {forget : op.State → base.State}

theorem sort_next (h : op.Extends base forget) (keys : List SortKey) (stopped : Bool)
    (s : Sorting.State op.State) :
    (Sorting.next op keys stopped s).lift (Sorting.State.map forget) =
      Sorting.next base keys stopped (s.map forget) := by
  unfold Sorting.next
  simp only [Sorting.State.map, ← h.collect]
  split
  · rfl
  · split
    · rfl
    · dsimp only [Step.outcome_lift]
      split <;> rfl

theorem sort (h : op.Extends base forget) (keys : List SortKey) :
    (op.sort keys).Extends (base.sort keys) (Sorting.State.map forget) where
  start := by simp only [Operator.sort, Sorting.State.map, h.start]
  next := h.sort_next keys
  rescan s := by
    simp only [Operator.sort, Sorting.rescan, Sorting.State.map, ← h.rescan]
    split <;> rfl
  close s := by
    simp only [Operator.sort, Sorting.close, Sorting.State.map, ← h.close]
    split <;> rfl

end Operator.Extends

namespace Plan

/-- The machine of a plan, where each leaf remembers what it has been asked. -/
def monitored : Plan → Operator
  | scan relation => (Operator.scan relation).recorded
  | scripted script => (Operator.scripted script).recorded
  | filter input predicate => input.monitored.filter predicate
  | project input projection => input.monitored.project projection
  | limit input count => input.monitored.limit count
  | sort input keys => input.monitored.sort keys
  | join left right plan => left.monitored.leftJoin right.monitored plan

def forget : (p : Plan) → p.monitored.State → p.operator.State
  | scan _ => Operator.Recorded.input
  | scripted _ => Operator.Recorded.input
  | filter input _ => input.forget
  | project input _ => input.forget
  | limit input _ => Limit.State.map input.forget
  | sort input _ => Sorting.State.map input.forget
  | join left right _ => Join.State.map left.forget right.forget

def asked : (p : Plan) → p.monitored.State → List (List Operator.Command)
  | scan _, s => [s.asked]
  | scripted _, s => [s.asked]
  | filter input _, s => input.asked s
  | project input _, s => input.asked s
  | limit input _, s => input.asked s.input
  | sort input _, s => input.asked s.input
  | join left right _, s => left.asked s.left ++ right.asked s.right

def pulls (p : Plan) (s : p.monitored.State) : List Nat :=
  (p.asked s).map (List.count .next)

theorem schema_monitored (p : Plan) : p.monitored.schema = p.operator.schema := by
  induction p with
  | scan | scripted | project | join => rfl
  | filter _ _ ih | limit _ _ ih | sort _ _ ih => exact ih

/-- What the leaves remember makes no difference to how a plan answers. -/
theorem monitored_extends (p : Plan) : p.monitored.Extends p.operator p.forget := by
  induction p with
  | scan relation => exact Operator.recorded_extends _
  | scripted script => exact Operator.recorded_extends _
  | filter input predicate ih => exact ih.filter input.schema_monitored predicate
  | project input projection ih => exact ih.project projection
  | limit input count ih => exact ih.limit count
  | sort input keys ih => exact ih.sort keys
  | join left right plan ihleft ihright => exact ihleft.leftJoin ihright plan

end Plan

end RowEngine
