import RowEngine.Event
import RowEngine.Stats

/-!
# Operators

An operator is a machine that is asked for one row after the other. It can be started over and
closed, and it tells what its inputs have handed out. Each request ends in an outcome, a new state
and the events on the way; after a failure the machine goes on from the state it was left in.

The field `remaining` bounds the rows that an operator can still hand out before it is started over:
each row uses up some of it, and no request but a new start gives anything back. So draining an
operator always ends.
-/

namespace RowEngine

/-- What came of one request. -/
structure Step (σ α : Type) where
  outcome : Except Failure α
  state : σ
  events : List Event

namespace Step

variable {σ τ α β : Type}

def after (events : List Event) (s : Step σ α) : Step σ α :=
  ⟨s.outcome, s.state, events ++ s.events⟩

/-- The same step, seen in the state of a larger machine. -/
def lift (f : σ → τ) (s : Step σ α) : Step τ α := ⟨s.outcome, f s.state, s.events⟩

@[simp] theorem outcome_after (events : List Event) (s : Step σ α) :
    (s.after events).outcome = s.outcome := rfl
@[simp] theorem state_after (events : List Event) (s : Step σ α) :
    (s.after events).state = s.state := rfl
@[simp] theorem events_after (events : List Event) (s : Step σ α) :
    (s.after events).events = events ++ s.events := rfl
@[simp] theorem outcome_lift (f : σ → τ) (s : Step σ α) : (s.lift f).outcome = s.outcome := rfl
@[simp] theorem state_lift (f : σ → τ) (s : Step σ α) : (s.lift f).state = f s.state := rfl
@[simp] theorem events_lift (f : σ → τ) (s : Step σ α) : (s.lift f).events = s.events := rfl

end Step

def Traced.outcome {α : Type} (x : Evaluation α) : Except Failure α :=
  x.result.mapError .evaluation

def Traced.events {α : Type} (x : Evaluation α) : List Event := x.trace.map .call

def rowCount : Except Failure (Option Row) → Nat
  | .ok (some _) => 1
  | _ => 0

@[simp] theorem rowCount_some (row : Row) : rowCount (.ok (some row)) = 1 := rfl
@[simp] theorem rowCount_none : rowCount (.ok none) = 0 := rfl
@[simp] theorem rowCount_error (f : Failure) : rowCount (.error f) = 0 := rfl

structure Operator where
  State : Type
  schema : Schema
  start : State
  /-- The next row, or `none` at the end. The flag says that the task has been stopped. -/
  next : Bool → State → Step State (Option Row)
  rescan : State → Step State Unit
  close : State → Step State Unit
  stats : State → Stats
  remaining : State → Nat
  next_remaining : ∀ stopped s,
    remaining (next stopped s).state + rowCount (next stopped s).outcome ≤ remaining s

namespace Operator

variable {β : Type}

/-- A row that has been handed out is no longer to come. -/
theorem remaining_lt (op : Operator) {stopped : Bool} {s : op.State} {row : Row}
    (h : (op.next stopped s).outcome = .ok (some row)) :
    op.remaining (op.next stopped s).state < op.remaining s := by
  have := op.next_remaining stopped s
  simp only [h, rowCount_some] at this
  omega

theorem remaining_le (op : Operator) (stopped : Bool) (s : op.State) :
    op.remaining (op.next stopped s).state ≤ op.remaining s := by
  have := op.next_remaining stopped s
  omega

/-- Feeds the rows still to come to `f`, up to the end or the first failure. -/
def fold (op : Operator) (stopped : Bool) (f : β → Row → Except Failure β) (acc : β)
    (s : op.State) : Step op.State β :=
  let step := op.next stopped s
  match _ : step.outcome with
  | .error e => ⟨.error e, step.state, step.events⟩
  | .ok none => ⟨.ok acc, step.state, step.events⟩
  | .ok (some row) =>
    match f acc row with
    | .error e => ⟨.error e, step.state, step.events⟩
    | .ok acc' => (fold op stopped f acc' step.state).after step.events
termination_by op.remaining s
decreasing_by exact op.remaining_lt ‹_›

def collect (op : Operator) (stopped : Bool) (s : op.State) : Step op.State (List Row) :=
  let step := op.fold stopped (fun rows row => .ok (row :: rows)) [] s
  ⟨step.outcome.map List.reverse, step.state, step.events⟩

/-- Whatever comes of a fold, nothing is given back. -/
theorem remaining_fold_le (op : Operator) (stopped : Bool) (f : β → Row → Except Failure β)
    (acc : β) (s : op.State) :
    op.remaining (op.fold stopped f acc s).state ≤ op.remaining s := by
  fun_induction fold op stopped f acc s with
  | case1 => exact op.remaining_le stopped _
  | case2 => exact op.remaining_le stopped _
  | case3 => exact op.remaining_le stopped _
  | case4 _ s _ row hrow _ _ ih =>
    exact Nat.le_trans ih (op.remaining_le stopped s)

/-- A quantity that grows by at most one with each row grows by no more than what is used up. -/
theorem size_fold_le (op : Operator) (stopped : Bool) (f : β → Row → Except Failure β)
    (size : β → Nat) (hf : ∀ acc row acc', f acc row = .ok acc' → size acc' ≤ size acc + 1)
    (acc : β) (s : op.State) {result : β}
    (h : (op.fold stopped f acc s).outcome = .ok result) :
    size result + op.remaining (op.fold stopped f acc s).state ≤ size acc + op.remaining s := by
  fun_induction fold op stopped f acc s with
  | case1 => simp at h
  | case2 acc s =>
    obtain rfl := Except.ok.inj h
    exact Nat.add_le_add_left (op.remaining_le stopped s) _
  | case3 => simp at h
  | case4 acc s step row hrow acc' hacc ih =>
    have hsize := hf _ _ _ hacc
    have hless : op.remaining step.state < op.remaining s := op.remaining_lt hrow
    have := ih h
    simp only [Step.state_after]
    omega

/-- A drained operator has at least as much less to hand out as it handed out. -/
theorem length_collect_le (op : Operator) (stopped : Bool) (s : op.State) {rows : List Row}
    (h : (op.collect stopped s).outcome = .ok rows) :
    rows.length + op.remaining (op.collect stopped s).state ≤ op.remaining s := by
  unfold collect at h
  cases hfold : (op.fold stopped (fun rows row => .ok (row :: rows)) [] s).outcome with
  | error e => simp [hfold, Except.map] at h
  | ok reversed =>
    simp only [hfold, Except.map, Except.ok.injEq] at h
    subst h
    simpa [collect] using op.size_fold_le stopped (fun rows row => .ok (row :: rows)) List.length
      (by rintro acc row _ ⟨⟩; simp) [] s hfold

theorem remaining_collect_le (op : Operator) (stopped : Bool) (s : op.State) :
    op.remaining (op.collect stopped s).state ≤ op.remaining s :=
  op.remaining_fold_le stopped _ _ s

end Operator

end RowEngine
