import RowEngine.Proofs.Emission
import RowEngine.Proofs.Failing
import RowEngine.Proofs.Recorded

/-!
# What operators fail with

An operator passes on the failures of its inputs and adds those of its own expressions. So the
invariant that tells which rows an operator hands out also tells what it fails with, once it is
known what the expressions do on such rows. Closing keeps the invariant too.
-/

namespace RowEngine

/-- A failed evaluation is a failure with the same cause. -/
theorem Traced.failsOnly_outcome {α : Type} {E : Failure → Prop} {x : Evaluation α}
    (h : FailsOnly (fun e => E (.evaluation e)) x.result) : FailsOnly E x.outcome := by
  unfold outcome
  cases hx : x.result with
  | error e => exact .error (h e hx)
  | ok a => exact .ok a

/-- Only rows with `P` are handed out, and requests for a row fail only with `E`. -/
structure Operator.Serves (op : Operator) (P : Row → Prop) (E : Failure → Prop)
    (Inv : op.State → Prop) : Prop extends op.Emits P Inv where
  close : ∀ s, Inv s → Inv (op.close s).state
  fails : ∀ stopped s, Inv s → FailsOnly E (op.next stopped s).outcome

variable {β : Type} {E : Failure → Prop} {P Q : Row → Prop}

namespace Operator.Serves

variable {op : Operator} {Inv : op.State → Prop} {s : op.State}

/-- Feeding the rows to a function fails as the requests and the function do. -/
theorem failsOnly_fold (h : op.Serves P E Inv) (stopped : Bool) {f : β → Row → Except Failure β}
    (hf : ∀ acc row, P row → FailsOnly E (f acc row)) (acc : β) (hs : Inv s) :
    FailsOnly E (op.fold stopped f acc s).outcome := by
  fun_induction Operator.fold op stopped f acc s with
  | case1 acc s step e hout => exact .error (h.fails stopped s hs e hout)
  | case2 acc s => exact .ok acc
  | case3 acc s step row hrow e he =>
    exact .error (hf acc row (h.row stopped s row hs hrow) e he)
  | case4 acc s step row hrow acc' hacc ih => exact ih (h.next stopped s hs)

theorem failsOnly_collect (h : op.Serves P E Inv) (stopped : Bool) (hs : Inv s) :
    FailsOnly E (op.collect stopped s).outcome := by
  rw [collect_eq_fold]
  exact (h.failsOnly_fold stopped (fun _ _ _ => .ok _) [] hs).map List.reverse

/-- The invariant holds after any commands. -/
theorem run (h : op.Serves P E Inv) (commands : List Command) :
    Inv ((Task.start op).run commands).state :=
  Task.run_keeps h.next h.rescan h.close (Task.start op) h.start commands

/-- Whatever an operator has been told before, a request for a row fails only with `E`. -/
theorem fails_run (h : op.Serves P E Inv) (commands : List Command) :
    let task := (Task.start op).run commands
    FailsOnly E (op.next task.stopped task.state).outcome :=
  h.fails _ _ (h.run commands)

/-- An operator that remembers what it is asked does not answer differently. -/
theorem recorded (h : op.Serves P E Inv) : op.recorded.Serves P E (Inv ·.input) where
  start := h.start
  next stopped s := h.next stopped s.input
  row stopped s := h.row stopped s.input
  rescan s := h.rescan s.input
  close s := h.close s.input
  fails stopped s := h.fails stopped s.input

end Operator.Serves

theorem Operator.Serves.scan {relation : Relation} (h : ∀ row ∈ relation.rows, P row) :
    (Operator.scan relation).Serves P E fun _ => True := by
  refine ⟨.scan h, fun _ _ => trivial, ?_⟩
  intro stopped s _
  simp only [Operator.scan, Scan.next]
  split
  · exact .ok none
  split
  · exact .ok none
  · exact .ok _

section

variable {child : Operator} {Inv : child.State → Prop}

/-- The induction is on the rows that a filter goes through in one request. -/
theorem Filter.failsOnly_next (h : child.Serves P E Inv) {predicate : Expr}
    (hpredicate : ∀ row, P row →
      FailsOnly (fun e => E (.evaluation e)) (predicate.holds child.schema row.view).result)
    (stopped : Bool) {s : child.State} (hs : Inv s) :
    FailsOnly E (next child predicate stopped s).outcome := by
  fun_induction next child predicate stopped s with
  | case1 s step e hout => exact .error (h.fails stopped s hs e hout)
  | case2 s => exact .ok none
  | case3 s step row hrow verdict events e he =>
    have hverdict := Traced.failsOnly_outcome (hpredicate row (h.row stopped s row hs hrow))
    exact .error (hverdict e he)
  | case4 s step row => exact .ok (some row)
  | case5 s step row hrow verdict events hfalse ih => exact ih (h.next stopped s hs)

theorem Operator.Serves.filter (h : child.Serves P E Inv) {predicate : Expr}
    (hpredicate : ∀ row, P row →
      FailsOnly (fun e => E (.evaluation e)) (predicate.holds child.schema row.view).result) :
    (child.filter predicate).Serves P E Inv :=
  ⟨h.toEmits.filter predicate, h.close, fun stopped _ hs =>
    Filter.failsOnly_next h hpredicate stopped hs⟩

/-- A projection fails where its input does, and where a target fails on a row. -/
theorem Operator.Serves.project (h : child.Serves P E Inv) {projection : Projection}
    (hwrite : ∀ row out, P row → (projection.apply row.view).result = .ok out → Q out)
    (hfails : ∀ row, P row →
      FailsOnly (fun e => E (.evaluation e)) (projection.apply row.view).result) :
    (child.project projection).Serves Q E Inv := by
  refine ⟨h.toEmits.project hwrite, h.close, ?_⟩
  intro stopped s hs
  simp only [Operator.project, Project.next]
  split
  · rename_i e hout
    exact .error (h.fails stopped s hs e hout)
  · exact .ok none
  · rename_i row hrow
    have hrow := hfails row (h.row stopped s row hs hrow)
    exact (Traced.failsOnly_outcome hrow).map some

theorem Operator.Serves.limit (h : child.Serves P E Inv) (count : Nat) :
    (child.limit count).Serves P E fun s => Inv s.input := by
  refine ⟨h.toEmits.limit count, fun s hs => h.close s.input hs, ?_⟩
  intro stopped s hs
  simp only [Operator.limit, Limit.next]
  split
  · exact .ok none
  · exact h.fails stopped s.input hs

/-- A sort fails only while it drains its input. -/
theorem Operator.Serves.sort (h : child.Serves P E Inv) (keys : List SortKey) :
    (child.sort keys).Serves P E (Sorting.Holds P Inv) := by
  refine ⟨h.toEmits.sort keys, ?_, ?_⟩
  · intro s hs
    simp only [Operator.sort, Sorting.close]
    split
    · exact hs
    · exact ⟨h.close s.input hs.input, fun _ _ hphase => (by cases hphase)⟩
  · intro stopped s hs
    simp only [Operator.sort, Sorting.next]
    split
    · exact .ok none
    split
    · exact .ok _
    split
    · rename_i e hout
      exact .error (h.failsOnly_collect stopped hs.input e hout)
    · exact .ok _

end

end RowEngine
