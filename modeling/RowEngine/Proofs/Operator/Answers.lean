import RowEngine.Operator.Sorting
import RowEngine.Proofs.Operator.Streaming
import RowEngine.Proofs.Recorded

/-!
# What a consumer is answered

Two operators at work are alike for a consumer if they answer all requests for rows in the same way,
wherever the task is stopped between them. So it can be told whether a new start that fails makes a
difference: to a filter, a projection or a sort it makes none if it makes none to the input, to a
limit only if the limit has handed out nothing yet, or if its input ends without it.
-/

namespace RowEngine

theorem rowCount_le_one (answer : Except Failure (Option Row)) : rowCount answer ≤ 1 := by
  unfold rowCount
  split <;> omega

namespace Operator

variable {op op' op'' : Operator}

def Task.answers (task : Task op) : List Command → List (Except Failure (Option Row))
  | [] => []
  | .next :: commands =>
    (op.next task.stopped task.state).outcome :: answers (task.after .next) commands
  | command :: commands => answers (task.after command) commands

def rowsIn : List (Except Failure (Option Row)) → Nat
  | [] => 0
  | answer :: answers => rowCount answer + rowsIn answers

@[simp] theorem rowsIn_nil : rowsIn [] = 0 := rfl

@[simp] theorem rowsIn_cons (answer : Except Failure (Option Row))
    (answers : List (Except Failure (Option Row))) :
    rowsIn (answer :: answers) = rowCount answer + rowsIn answers := rfl

theorem rowsIn_append (answers more : List (Except Failure (Option Row))) :
    rowsIn (answers ++ more) = rowsIn answers + rowsIn more := by
  induction answers with
  | nil => simp
  | cons answer answers ih => rw [List.cons_append, rowsIn_cons, rowsIn_cons, ih, Nat.add_assoc]

/-- The commands that come later are answered in the state that the earlier ones lead to. -/
theorem Task.answers_append (task : Task op) (commands more : List Command) :
    task.answers (commands ++ more) =
      task.answers commands ++ (task.run commands).answers more := by
  induction commands generalizing task with
  | nil => rfl
  | cons command commands ih =>
    cases command with
    | next => exact congrArg (_ :: ·) (ih _)
    | rescan | close | stop => exact ih _

/-- Without a new start, no more rows are answered than the operator has left. -/
theorem Task.rowsIn_answers_le (task : Task op) (n : Nat) :
    rowsIn (task.answers (List.replicate n .next)) ≤ op.remaining task.state := by
  induction n generalizing task with
  | zero => exact Nat.zero_le _
  | succ n ih =>
    have hstep := op.next_remaining task.stopped task.state
    have hrest := ih (task.after .next)
    rw [List.replicate_succ, answers, rowsIn_cons]
    simp only [after] at hrest
    simp only [after]
    omega

/-- Two operators at work answer alike: the same to all requests for rows, until one is started over
or closed. -/
def Alike (t : Task op) (u : Task op') : Prop :=
  ∀ commands, .rescan ∉ commands → .close ∉ commands → t.answers commands = u.answers commands

namespace Alike

variable {t : Task op} {u : Task op'} {w : Task op''}

theorem symm (h : Alike t u) : Alike u t := fun commands hrescan hclose =>
  (h commands hrescan hclose).symm

theorem trans (h : Alike t u) (h' : Alike u w) : Alike t w := fun commands hrescan hclose =>
  (h commands hrescan hclose).trans (h' commands hrescan hclose)

theorem next (h : Alike t u) :
    (op.next t.stopped t.state).outcome = (op'.next u.stopped u.state).outcome ∧
      Alike (t.after .next) (u.after .next) := by
  have hcons (commands : List Command) (hrescan : .rescan ∉ commands)
      (hclose : .close ∉ commands) :=
    List.cons.inj (h (.next :: commands) (by simpa using hrescan) (by simpa using hclose))
  exact ⟨(hcons [] (by simp) (by simp)).1, fun commands hrescan hclose =>
    (hcons commands hrescan hclose).2⟩

theorem stop (h : Alike t u) : Alike (t.after .stop) (u.after .stop) :=
  fun commands hrescan hclose =>
    h (.stop :: commands) (by simpa using hrescan) (by simpa using hclose)

/-- A relation that requests for rows and stopping keep, and under which the answers are the same.
-/
theorem of_step {R : Task op → Task op' → Prop}
    (hnext : ∀ t u, R t u →
      (op.next t.stopped t.state).outcome = (op'.next u.stopped u.state).outcome ∧
        R (t.after .next) (u.after .next))
    (hstop : ∀ t u, R t u → R (t.after .stop) (u.after .stop)) (h : R t u) : Alike t u := by
  intro commands hrescan hclose
  induction commands generalizing t u with
  | nil => rfl
  | cons command commands ih =>
    have hrescan' : .rescan ∉ commands := fun hmem => hrescan (.tail _ hmem)
    have hclose' : .close ∉ commands := fun hmem => hclose (.tail _ hmem)
    cases command with
    | next =>
      obtain ⟨hanswer, hafter⟩ := hnext t u h
      rw [Task.answers, Task.answers, hanswer, ih hafter hrescan' hclose']
    | stop => exact ih (hstop t u h) hrescan' hclose'
    | rescan => exact absurd (.head _) hrescan
    | close => exact absurd (.head _) hclose

/-- An operator that answers to its first requests what it answers to those behind them has handed
out no row: else it would hand out rows for ever. -/
theorem rowsIn_eq_zero {task : Task op} {n : Nat}
    (h : Alike (task.run (List.replicate n .next)) task) :
    rowsIn (task.answers (List.replicate n .next)) = 0 := by
  have hrounds (k : Nat) : rowsIn (task.answers (List.replicate (k * n) .next)) =
      k * rowsIn (task.answers (List.replicate n .next)) := by
    induction k with
    | zero => simp [Task.answers]
    | succ k ih =>
      have hagain := h (List.replicate (k * n) .next) (by simp) (by simp)
      rw [Nat.add_mul, Nat.one_mul, Nat.add_comm, ← List.replicate_append_replicate,
        Task.answers_append, rowsIn_append, hagain, ih, Nat.add_mul, Nat.one_mul, Nat.add_comm]
  have hle := task.rowsIn_answers_le ((op.remaining task.state + 1) * n)
  rw [hrounds] at hle
  refine Nat.eq_zero_of_not_pos fun hpos => ?_
  have := Nat.mul_le_mul_left (op.remaining task.state + 1) hpos
  omega

end Alike

/-- An operator whose new start, when it fails, leaves it where it was. -/
def FailsInPlace (op : Operator) : Prop :=
  ∀ s e, (op.rescan s).outcome = .error e →
    ∀ stopped, Alike (⟨(op.rescan s).state, stopped⟩ : Task op) ⟨s, stopped⟩

/-- A script only counts the new starts that fail. -/
theorem FailsInPlace.scripted (script : Script) : (Operator.scripted script).FailsInPlace := by
  intro s e he stopped
  let R (t u : Task (Operator.scripted script)) : Prop :=
    t.state.cursor = u.state.cursor ∧ t.state.pulls = u.state.pulls
  refine Alike.of_step (R := R) ?_ (fun _ _ h => h) ?_
  · rintro ⟨⟨cursor, pulls, _, _⟩, _⟩ ⟨⟨_, _, _, _⟩, _⟩ ⟨rfl, rfl⟩
    simp only [R, Task.after, Operator.scripted, Script.next]
    cases script.pullFault pulls with
    | some failure => exact ⟨rfl, rfl, rfl⟩
    | none => cases script.rows[cursor]? <;> exact ⟨rfl, rfl, rfl⟩
  · simp only [R, Operator.scripted, Script.rescan] at he ⊢
    cases hfault : script.rescanFault with
    | some failure => exact ⟨rfl, rfl⟩
    | none => simp [hfault] at he

/-- An operator whose new starts, if they fail, do so in its input and change nothing of its own. It
is enough that its answers depend on nothing else. -/
theorem FailsInPlace.of_input {child : Operator} (hchild : child.FailsInPlace) {ρ : Type}
    (input : op.State → child.State) (own : op.State → ρ)
    (hrescan : ∀ s e, (op.rescan s).outcome = .error e →
      (child.rescan (input s)).outcome = .error e ∧
        input (op.rescan s).state = (child.rescan (input s)).state ∧
        own (op.rescan s).state = own s)
    (hnext : ∀ {s s' stopped}, own s' = own s →
      Alike (⟨input s', stopped⟩ : Task child) (⟨input s, stopped⟩ : Task child) →
        (op.next stopped s').outcome = (op.next stopped s).outcome ∧
          own (op.next stopped s').state = own (op.next stopped s).state ∧
          Alike (⟨input (op.next stopped s').state, stopped⟩ : Task child)
            (⟨input (op.next stopped s).state, stopped⟩ : Task child)) :
    op.FailsInPlace := by
  intro s e he stopped
  obtain ⟨hfails, hinput, hown⟩ := hrescan s e he
  have hplace := hchild (input s) e hfails stopped
  rw [← hinput] at hplace
  let R (t u : Task op) : Prop :=
    t.stopped = u.stopped ∧ own t.state = own u.state ∧
      Alike (⟨input t.state, t.stopped⟩ : Task child) (⟨input u.state, u.stopped⟩ : Task child)
  refine Alike.of_step (R := R) ?_ ?_ ⟨rfl, hown, hplace⟩
  · rintro ⟨s', stopped⟩ ⟨s, _⟩ ⟨rfl, hown, halike⟩
    obtain ⟨houtcome, hafter⟩ := hnext hown halike
    exact ⟨houtcome, rfl, hafter⟩
  · rintro ⟨s', stopped⟩ ⟨s, _⟩ ⟨rfl, hown, halike⟩
    exact ⟨rfl, hown, halike.stop⟩

end Operator

section

open Operator

variable {child : Operator} {stopped : Bool}

/-- The induction is on the rows that the filter goes through in one request. -/
theorem Filter.next_alike (predicate : Expr) {s s' : child.State}
    (h : Alike (⟨s', stopped⟩ : Task child) (⟨s, stopped⟩ : Task child)) :
    (next child predicate stopped s').outcome = (next child predicate stopped s).outcome ∧
      Alike (⟨(next child predicate stopped s').state, stopped⟩ : Task child)
        (⟨(next child predicate stopped s).state, stopped⟩ : Task child) := by
  obtain ⟨hsame, hafter⟩ := h.next
  match hout : (child.next stopped s).outcome with
  | .error e =>
    rw [next_error hout, next_error (hsame.trans hout)]
    exact ⟨rfl, hafter⟩
  | .ok none =>
    rw [next_end hout, next_end (hsame.trans hout)]
    exact ⟨rfl, hafter⟩
  | .ok (some row) =>
    have hout' : (child.next stopped s').outcome = .ok (some row) := hsame.trans hout
    match hverdict : (predicate.holds child.schema row.view).outcome with
    | .error e =>
      obtain ⟨houtcome, hstate⟩ := next_unreadable hout hverdict
      obtain ⟨houtcome', hstate'⟩ := next_unreadable hout' hverdict
      rw [houtcome, hstate, houtcome', hstate']
      exact ⟨rfl, hafter⟩
    | .ok true =>
      have htest := Traced.outcome_eq_ok.mp hverdict
      obtain ⟨houtcome, hstate⟩ := next_passed hout htest
      obtain ⟨houtcome', hstate'⟩ := next_passed hout' htest
      rw [houtcome, hstate, houtcome', hstate']
      exact ⟨rfl, hafter⟩
    | .ok false =>
      have htest := Traced.outcome_eq_ok.mp hverdict
      obtain ⟨houtcome, hstate⟩ := next_refused hout htest
      obtain ⟨houtcome', hstate'⟩ := next_refused hout' htest
      rw [houtcome, hstate, houtcome', hstate']
      exact next_alike predicate hafter
termination_by child.remaining s
decreasing_by exact child.remaining_lt hout

theorem Project.next_alike (projection : Projection) {s s' : child.State}
    (h : Alike (⟨s', stopped⟩ : Task child) (⟨s, stopped⟩ : Task child)) :
    (next child projection stopped s').outcome = (next child projection stopped s).outcome ∧
      Alike (⟨(next child projection stopped s').state, stopped⟩ : Task child)
        (⟨(next child projection stopped s).state, stopped⟩ : Task child) := by
  obtain ⟨hsame, hafter⟩ := h.next
  unfold next
  dsimp only at hsame ⊢
  rw [hsame]
  split <;> exact ⟨rfl, hafter⟩

/-- Inputs that answer alike are drained alike. -/
theorem Operator.Alike.fold {β : Type} (f : β → Row → Except Failure β) (acc : β)
    {s s' : child.State}
    (h : Alike (⟨s', stopped⟩ : Task child) (⟨s, stopped⟩ : Task child)) :
    (child.fold stopped f acc s').outcome = (child.fold stopped f acc s).outcome ∧
      Alike (⟨(child.fold stopped f acc s').state, stopped⟩ : Task child)
        (⟨(child.fold stopped f acc s).state, stopped⟩ : Task child) := by
  obtain ⟨hsame, hafter⟩ := h.next
  match hout : (child.next stopped s).outcome with
  | .error e =>
    rw [fold_error f acc hout, fold_error f acc (hsame.trans hout)]
    exact ⟨rfl, hafter⟩
  | .ok none =>
    rw [fold_end f acc hout, fold_end f acc (hsame.trans hout)]
    exact ⟨rfl, hafter⟩
  | .ok (some row) =>
    match hf : f acc row with
    | .error e =>
      rw [fold_refused hout hf, fold_refused (hsame.trans hout) hf]
      exact ⟨rfl, hafter⟩
    | .ok acc' =>
      rw [fold_row hout hf, fold_row (hsame.trans hout) hf]
      exact Alike.fold f acc' hafter
termination_by child.remaining s
decreasing_by exact child.remaining_lt hout

/-- While the input is drained nothing but its answers matters, and after that the input is not
asked again. -/
theorem Sorting.next_alike (keys : List SortKey) {s s' : State child.State}
    (hown : (s'.phase, s'.closed) = (s.phase, s.closed))
    (h : Alike (⟨s'.input, stopped⟩ : Task child) (⟨s.input, stopped⟩ : Task child)) :
    (next child keys stopped s').outcome = (next child keys stopped s).outcome ∧
      ((next child keys stopped s').state.phase, (next child keys stopped s').state.closed) =
        ((next child keys stopped s).state.phase, (next child keys stopped s).state.closed) ∧
      Alike (⟨(next child keys stopped s').state.input, stopped⟩ : Task child)
        (⟨(next child keys stopped s).state.input, stopped⟩ : Task child) := by
  obtain ⟨i, _, _⟩ := s
  obtain ⟨j, phase, closed⟩ := s'
  obtain ⟨hphase, hclosed⟩ := Prod.mk.inj hown
  dsimp only at hphase hclosed h
  subst hphase hclosed
  unfold next
  split
  · exact ⟨rfl, rfl, h⟩
  · cases phase with
    | sorted rows cursor => exact ⟨rfl, rfl, h⟩
    | unsorted =>
      obtain ⟨hsame, hafter⟩ := h.fold push []
      have hrows : (child.collect stopped j).outcome = (child.collect stopped i).outcome :=
        congrArg (Except.map List.reverse) hsame
      dsimp only
      rw [hrows]
      split <;> exact ⟨rfl, rfl, hafter⟩

theorem Operator.FailsInPlace.filter (h : child.FailsInPlace) (predicate : Expr) :
    (child.filter predicate).FailsInPlace :=
  .of_input h id (fun _ => ()) (fun _ _ he => ⟨he, rfl, rfl⟩) fun _ halike =>
    (Filter.next_alike predicate halike).imp_right (⟨rfl, ·⟩)

theorem Operator.FailsInPlace.project (h : child.FailsInPlace) (projection : Projection) :
    (child.project projection).FailsInPlace :=
  .of_input h id (fun _ => ()) (fun _ _ he => ⟨he, rfl, rfl⟩) fun _ halike =>
    (Project.next_alike projection halike).imp_right (⟨rfl, ·⟩)

/-- A sort that has its rows does not ask its input for a new start. -/
theorem Operator.FailsInPlace.sort (h : child.FailsInPlace) (keys : List SortKey) :
    (child.sort keys).FailsInPlace := by
  refine .of_input h Sorting.State.input (fun s => (s.phase, s.closed)) ?_ (Sorting.next_alike keys)
  rintro ⟨input, phase, closed⟩ e he
  cases phase with
  | sorted rows cursor => cases he
  | unsorted => exact ⟨he, rfl, rfl⟩

end

/-- A script with one column of integers that cannot be started over. -/
def Script.unrepeatable (name : String) (numbers : List Int64) : Script where
  schema := ⟨[⟨name, .integer, false⟩]⟩
  rows := numbers.map fun n => [.integer n]
  pullFault _ := none
  rescanFault := some (.internal "start failed")
  closeFault := none
  stats := .zero

namespace Limit

open Operator

variable {child : Operator} {count : Nat}

/-- What a limit with some rows left makes of the answers of its input. -/
def cut : Nat → List (Except Failure (Option Row)) → List (Except Failure (Option Row))
  | _, [] => []
  | 0, _ :: answers => .ok none :: cut 0 answers
  | n + 1, answer :: answers => answer :: cut (n + 1 - rowCount answer) answers

/-- A limit lets as many rows through as there are, but no more than it has left. -/
theorem rowsIn_cut (n : Nat) (answers : List (Except Failure (Option Row))) :
    rowsIn (cut n answers) = min n (rowsIn answers) := by
  induction answers generalizing n with
  | nil => simp [cut]
  | cons answer answers ih =>
    cases n with
    | zero => simp [cut, ih]
    | succ n =>
      have hone := rowCount_le_one answer
      rw [cut, rowsIn_cons, rowsIn_cons, ih]
      omega

/-- The answers of an input that has fewer rows than the limit leaves are passed on. -/
theorem cut_of_lt {n : Nat} {answers : List (Except Failure (Option Row))}
    (h : rowsIn answers < n) : cut n answers = answers := by
  induction answers generalizing n with
  | nil => rfl
  | cons answer answers ih =>
    rw [rowsIn_cons] at h
    cases n with
    | zero => omega
    | succ n => rw [cut, ih (by omega)]

/-- Two limits of different size make the same of some answers just if the smaller one passes them
on. -/
theorem cut_eq_cut_iff {n m : Nat} (h : n < m) (answers : List (Except Failure (Option Row))) :
    cut m answers = cut n answers ↔ cut n answers = answers := by
  constructor
  · intro hsame
    have hrows := congrArg rowsIn hsame
    rw [rowsIn_cut, rowsIn_cut] at hrows
    rw [← hsame, cut_of_lt (by omega)]
  · intro hall
    have hrows := congrArg rowsIn hall
    rw [rowsIn_cut] at hrows
    rw [hall, cut_of_lt (by omega)]

/-- A limit that has handed out all its rows answers that it is at its end. -/
theorem answers_spent (s : State child.State) (hfull : count ≤ s.emitted) (stopped : Bool)
    (task : Task child) {commands : List Command} (hrescan : .rescan ∉ commands) :
    (⟨s, stopped⟩ : Task (child.limit count)).answers commands = cut 0 (task.answers commands) := by
  induction commands generalizing s stopped task with
  | nil => rfl
  | cons command commands ih =>
    have hrescan' : .rescan ∉ commands := fun hmem => hrescan (.tail _ hmem)
    cases command with
    | next =>
      have hstep : (child.limit count).next stopped s = ⟨.ok none, s, []⟩ := if_pos hfull
      rw [Task.answers, Task.answers, cut, Task.after, hstep,
        ih s hfull stopped (task.after .next) hrescan']
    | rescan => exact absurd (.head _) hrescan
    | close =>
      exact ih ⟨(child.close s.input).state, s.emitted⟩ hfull stopped (task.after .close) hrescan'
    | stop => exact ih s hfull true (task.after .stop) hrescan'

/-- A limit answers as its input does until its rows are used up. -/
theorem answers_limit (s : State child.State) (stopped : Bool) {commands : List Command}
    (hrescan : .rescan ∉ commands) :
    (⟨s, stopped⟩ : Task (child.limit count)).answers commands =
      cut (count - s.emitted) ((⟨s.input, stopped⟩ : Task child).answers commands) := by
  induction commands generalizing s stopped with
  | nil => rfl
  | cons command commands ih =>
    have hrescan' : .rescan ∉ commands := fun hmem => hrescan (.tail _ hmem)
    cases command with
    | next =>
      by_cases hfull : count ≤ s.emitted
      · rw [Nat.sub_eq_zero_of_le hfull]
        exact answers_spent s hfull stopped _ hrescan
      · obtain ⟨n, hn⟩ : ∃ n, count - s.emitted = n + 1 := ⟨count - s.emitted - 1, by omega⟩
        have hstep : (child.limit count).next stopped s = _ := if_neg hfull
        have hleft : count - (s.emitted + rowCount (child.next stopped s.input).outcome) =
            n + 1 - rowCount (child.next stopped s.input).outcome := by omega
        rw [Task.answers, Task.answers, hn, cut, Task.after, hstep, ih _ stopped hrescan', hleft]
        rfl
    | rescan => exact absurd (.head _) hrescan
    | close => exact ih _ stopped hrescan'
    | stop => exact ih s true hrescan'

theorem alike_of_input {s s' : State child.State} {stopped stopped' : Bool}
    (hinput : Alike (⟨s'.input, stopped'⟩ : Task child) (⟨s.input, stopped⟩ : Task child))
    (hemitted : s'.emitted = s.emitted) :
    Alike (⟨s', stopped'⟩ : Task (child.limit count))
      (⟨s, stopped⟩ : Task (child.limit count)) := by
  intro commands hrescan hclose
  rw [answers_limit s' stopped' hrescan, answers_limit s stopped hrescan, hemitted,
    hinput commands hrescan hclose]

/-- No more than `count` rows are counted. -/
theorem emitted_run (commands : List Command) :
    ((Task.start (child.limit count)).run commands).state.emitted ≤ count := by
  have hnext (stopped : Bool) (s : State child.State) (hs : s.emitted ≤ count) :
      (next child count stopped s).state.emitted ≤ count := by
    unfold next
    split
    · exact hs
    · have hone := rowCount_le_one (child.next stopped s.input).outcome
      dsimp only
      omega
  exact Task.run_keeps hnext (fun _ _ => Nat.zero_le _) (fun _ h => h)
    (Task.start (child.limit count)) (Nat.zero_le _) commands

/-- A limit that counts from zero again answers as it would have anyway just if it has handed out
nothing, or if its input answers the same without it. -/
theorem alike_reset_iff {s : State child.State} (hle : s.emitted ≤ count) {input : child.State}
    {stopped : Bool}
    (hinput : Alike (⟨input, stopped⟩ : Task child) (⟨s.input, stopped⟩ : Task child)) :
    Alike (⟨⟨input, 0⟩, stopped⟩ : Task (child.limit count))
        (⟨s, stopped⟩ : Task (child.limit count)) ↔
      s.emitted = 0 ∨
        Alike (⟨s, stopped⟩ : Task (child.limit count)) (⟨s.input, stopped⟩ : Task child) := by
  have hzero : Alike (⟨⟨input, 0⟩, stopped⟩ : Task (child.limit count))
      (⟨⟨s.input, 0⟩, stopped⟩ : Task (child.limit count)) := alike_of_input hinput rfl
  rcases Nat.eq_zero_or_pos s.emitted with hnothing | hpos
  · obtain ⟨i, n⟩ := s
    obtain rfl : n = 0 := hnothing
    exact ⟨fun _ => .inl rfl, fun _ => hzero⟩
  have hless : count - s.emitted < count := by omega
  have hcut {commands : List Command} (hrescan : .rescan ∉ commands) :
      (⟨⟨s.input, 0⟩, stopped⟩ : Task (child.limit count)).answers commands =
          (⟨s, stopped⟩ : Task (child.limit count)).answers commands ↔
        (⟨s, stopped⟩ : Task (child.limit count)).answers commands =
          (⟨s.input, stopped⟩ : Task child).answers commands := by
    rw [answers_limit _ stopped hrescan, answers_limit s stopped hrescan]
    exact cut_eq_cut_iff hless _
  constructor
  · intro halike
    right
    intro commands hrescan hclose
    exact (hcut hrescan).mp ((hzero.symm.trans halike) commands hrescan hclose)
  · rintro (hnothing | hfree)
    · omega
    · refine hzero.trans fun commands hrescan hclose => ?_
      exact (hcut hrescan).mpr (hfree commands hrescan hclose)

end Limit

end RowEngine
