import RowEngine.Proofs.Stream

/-!
# Operators that remember their commands

To speak of what an operator asks of its inputs, the inputs are made to remember the commands they
get. This only adds to what they know, and it changes nothing that they or the operators above them
do.
-/

namespace RowEngine.Operator

variable {β : Type}

/-- An operator does what another one does, in states that hold more: `forget` leaves that out. -/
structure Extends (op base : Operator) (forget : op.State → base.State) : Prop where
  start : forget op.start = base.start
  next : ∀ stopped s, (op.next stopped s).lift forget = base.next stopped (forget s)
  rescan : ∀ s, (op.rescan s).lift forget = base.rescan (forget s)
  close : ∀ s, (op.close s).lift forget = base.close (forget s)

namespace Extends

variable {op base : Operator} {forget : op.State → base.State} {stopped : Bool} {s : op.State}

theorem outcome_next (h : op.Extends base forget) (stopped : Bool) (s : op.State) :
    (base.next stopped (forget s)).outcome = (op.next stopped s).outcome := by
  rw [← h.next, Step.outcome_lift]

/-- Draining takes the same course on both, request by request. -/
theorem fold (h : op.Extends base forget) (f : β → Row → Except Failure β) (acc : β) :
    (op.fold stopped f acc s).lift forget = base.fold stopped f acc (forget s) := by
  fun_induction Operator.fold op stopped f acc s with
  | case1 acc s step e hout =>
    rw [fold_error f acc ((h.outcome_next stopped s).trans hout), ← h.next]
    rfl
  | case2 acc s step hout =>
    rw [fold_end f acc ((h.outcome_next stopped s).trans hout), ← h.next]
    rfl
  | case3 acc s step row hout e hf =>
    rw [fold_refused ((h.outcome_next stopped s).trans hout) hf, ← h.next]
    rfl
  | case4 acc s step row hout acc' hf ih =>
    rw [fold_row ((h.outcome_next stopped s).trans hout) hf, ← h.next, Step.state_lift, ← ih]
    rfl

theorem after (h : op.Extends base forget) (task : Task op) (command : Command) :
    (⟨forget (task.after command).state, (task.after command).stopped⟩ : Task base) =
      Task.after ⟨forget task.state, task.stopped⟩ command := by
  cases command with
  | next => simp only [Task.after, ← h.next, Step.state_lift]
  | rescan => simp only [Task.after, ← h.rescan, Step.state_lift]
  | close => simp only [Task.after, ← h.close, Step.state_lift]
  | stop => rfl

/-- After the same commands the two differ only in what is remembered. -/
theorem run (h : op.Extends base forget) (task : Task op) (commands : List Command) :
    (⟨forget (task.run commands).state, (task.run commands).stopped⟩ : Task base) =
      Task.run ⟨forget task.state, task.stopped⟩ commands := by
  induction commands generalizing task with
  | nil => rfl
  | cons command commands ih =>
    rw [Task.run, List.foldl_cons, ← Task.run, ih, h.after]
    rfl

/-- What is forgotten plays no part in any sequence of commands. -/
theorem state_run (h : op.Extends base forget) (commands : List Command) :
    forget ((Task.start op).run commands).state = ((Task.start base).run commands).state := by
  have hrun := congrArg Task.state (h.run (Task.start op) commands)
  rw [Task.start, h.start] at hrun
  exact hrun

end Extends

/-- A state with the commands that led to it. -/
structure Recorded (σ : Type) where
  input : σ
  asked : List Command

/-- The same operator, which also remembers what it has been asked. -/
def recorded (op : Operator) : Operator where
  State := Recorded op.State
  schema := op.schema
  start := ⟨op.start, []⟩
  next stopped s := (op.next stopped s.input).lift (⟨·, s.asked ++ [.next]⟩)
  rescan s := (op.rescan s.input).lift (⟨·, s.asked ++ [.rescan]⟩)
  close s := (op.close s.input).lift (⟨·, s.asked ++ [.close]⟩)
  stats s := op.stats s.input
  remaining s := op.remaining s.input
  next_remaining stopped s := op.next_remaining stopped s.input

theorem recorded_extends (op : Operator) : op.recorded.Extends op Recorded.input :=
  ⟨rfl, fun _ _ => rfl, fun _ => rfl, fun _ => rfl⟩

theorem append_replicate_next (asked : List Command) (n : Nat) :
    asked ++ [.next] ++ List.replicate n .next = asked ++ List.replicate (n + 1) .next := by
  rw [List.replicate_succ, List.append_assoc, List.singleton_append]

/-- Feeding the rows to a function asks for rows and for nothing else. -/
theorem asked_fold (op : Operator) (stopped : Bool) (f : β → Row → Except Failure β) (acc : β)
    (s : op.recorded.State) :
    ∃ n, (op.recorded.fold stopped f acc s).state.asked = s.asked ++ List.replicate n .next := by
  fun_induction fold op.recorded stopped f acc s with
  | case1 | case2 | case3 => exact ⟨1, rfl⟩
  | case4 acc s step row hout acc' hf ih =>
    obtain ⟨n, hn⟩ := ih
    exact ⟨n + 1, hn.trans (append_replicate_next s.asked n)⟩

end RowEngine.Operator
