import RowEngine.Proofs.Operator.Answers
import RowEngine.Proofs.Operator.Retry

/-!
# Draining past errors

A consumer that does not mind errors goes on asking for rows until the end is answered. What it is
answered by a filter, a projection or a limit depends on nothing but what these read of their input:
an error is passed on, a row becomes an answer or is dropped, and a limit reads up to its last row.
-/

namespace RowEngine

open Operator

namespace Operator

/-- What a request is answered that is not answered with the end. -/
abbrev Answer := Except Failure Row

def rowsOf (answers : List Answer) : List Row := answers.filterMap Except.toOption

def errorsIn (answers : List Answer) : Nat := answers.countP (!·.isOk)

@[simp] theorem rowsOf_ok (row : Row) (answers : List Answer) :
    rowsOf (.ok row :: answers) = row :: rowsOf answers := rfl
@[simp] theorem rowsOf_error (e : Failure) (answers : List Answer) :
    rowsOf (.error e :: answers) = rowsOf answers := rfl
@[simp] theorem errorsIn_ok (row : Row) (answers : List Answer) :
    errorsIn (.ok row :: answers) = errorsIn answers := rfl
@[simp] theorem errorsIn_error (e : Failure) (answers : List Answer) :
    errorsIn (.error e :: answers) = errorsIn answers + 1 :=
  List.countP_cons_of_pos rfl

theorem map_some_ne_end (a : Answer) : a.map some ≠ .ok none := by
  cases a <;> exact nofun

theorem map_some_inj {a b : Answer} (h : a.map some = b.map some) : a = b := by
  cases a <;> cases b <;> cases h <;> rfl

/-- Every request is answered with the end, a row or an error. -/
theorem end_or_answer (outcome : Except Failure (Option Row)) :
    outcome = .ok none ∨ ∃ a : Answer, outcome = a.map some := by
  match outcome with
  | .ok none => exact .inl rfl
  | .ok (some row) => exact .inr ⟨.ok row, rfl⟩
  | .error e => exact .inr ⟨.error e, rfl⟩

/-- An operator answers some requests on the way from one state to another. The flag says whether it
has then answered one more, with the end. -/
inductive Reads (op : Operator) : Bool → op.State → List Answer → op.State → Prop
  | nil {s : op.State} : op.Reads false s [] s
  | done {s : op.State} (h : (op.next false s).outcome = .ok none) :
      op.Reads true s [] (op.next false s).state
  | cons {ended : Bool} {s t : op.State} {a : Answer} {answers : List Answer}
      (h : (op.next false s).outcome = a.map some)
      (hrest : op.Reads ended (op.next false s).state answers t) :
      op.Reads ended s (a :: answers) t

namespace Reads

variable {op : Operator} {ended : Bool} {s t u : op.State} {answers more all : List Answer}

theorem append (h : op.Reads false s answers u) (hmore : op.Reads ended u more t) :
    op.Reads ended s (answers ++ more) t := by
  generalize hflag : false = flag at h
  induction h with
  | nil => exact hmore
  | done => cases hflag
  | cons h hrest ih => exact .cons h (ih hmore hflag)

/-- What was read first comes first in what is read up to the end. -/
theorem exists_rest (h : op.Reads false s answers u) (hall : op.Reads true s all t) :
    ∃ rest, all = answers ++ rest ∧ op.Reads true u rest t := by
  generalize hflag : false = flag at h
  induction h generalizing all with
  | nil => exact ⟨all, rfl, hall⟩
  | done => cases hflag
  | @cons flag s u a answers h hrest ih =>
    cases hall with
    | done hend => exact absurd (h.symm.trans hend) (map_some_ne_end a)
    | cons h' hrest' =>
      obtain rfl := map_some_inj (h.symm.trans h')
      obtain ⟨rest, rfl, hrest⟩ := ih hrest' hflag
      exact ⟨rest, rfl, hrest⟩

/-- There is one way only to read up to the end. -/
theorem unique (h : op.Reads true s answers t) (h' : op.Reads true s more u) :
    answers = more ∧ t = u := by
  generalize hflag : true = flag at h
  induction h generalizing more with
  | nil => cases hflag
  | @done s hend =>
    cases h' with
    | done => exact ⟨rfl, rfl⟩
    | @cons _ _ _ a _ h => exact absurd (h.symm.trans hend) (map_some_ne_end a)
  | @cons flag s t a answers h hrest ih =>
    cases h' with
    | done hend => exact absurd (h.symm.trans hend) (map_some_ne_end a)
    | cons h' hrest' =>
      obtain rfl := map_some_inj (h.symm.trans h')
      obtain ⟨rfl, rfl⟩ := ih hrest' hflag
      exact ⟨rfl, rfl⟩

end Reads

/-- An error is passed on, and a row is turned into an answer or dropped. -/
def passOn (f : Row → Option Answer) : Answer → Option Answer
  | .error e => some (.error e)
  | .ok row => f row

/-- A request reads answers of the input that are all dropped, and then one that is passed on, or
the end. -/
def PassesOn (op child : Operator) (input : op.State → child.State) (f : Row → Option Answer) :
    Prop :=
  ∀ s, ∃ dropped u, child.Reads false (input s) dropped u ∧ dropped.filterMap (passOn f) = [] ∧
    input (op.next false s).state = (child.next false u).state ∧
    ((child.next false u).outcome = .ok none ∧ (op.next false s).outcome = .ok none ∨
      ∃ a b, (child.next false u).outcome = a.map some ∧ passOn f a = some b ∧
        (op.next false s).outcome = b.map some)

namespace PassesOn

variable {op child : Operator} {input : op.State → child.State} {f : Row → Option Answer}

/-- What is answered comes of what is read of the input. -/
theorem exists_read (h : op.PassesOn child input f) {ended : Bool} {s t : op.State}
    {answers : List Answer} (hreads : op.Reads ended s answers t) :
    ∃ read, child.Reads ended (input s) read (input t) ∧
      answers = read.filterMap (passOn f) := by
  induction hreads with
  | nil => exact ⟨[], .nil, rfl⟩
  | @done s hend =>
    obtain ⟨dropped, u, hdropped, hnothing, hstate, ⟨hchild, -⟩ | ⟨a, b, -, -, hb⟩⟩ := h s
    · refine ⟨dropped ++ [], hdropped.append ?_, by simp [hnothing]⟩
      rw [hstate]
      exact .done hchild
    · exact absurd (hb.symm.trans hend) (map_some_ne_end b)
  | @cons ended s t a answers hnext hrest ih =>
    obtain ⟨dropped, u, hdropped, hnothing, hstate, ⟨-, hend⟩ | ⟨a', b, hchild, hpass, hb⟩⟩ := h s
    · exact absurd (hnext.symm.trans hend) (map_some_ne_end a)
    · obtain rfl := map_some_inj (hnext.symm.trans hb)
      obtain ⟨read, hread, rfl⟩ := ih
      rw [hstate] at hread
      exact ⟨dropped ++ a' :: read, hdropped.append (.cons hchild hread), by simp [hnothing, hpass]⟩

/-- If the input can be read up to the end, the operator can. The recursion is on what is left to
read of the input: its answer behind the dropped ones is what the request is answered with. -/
theorem reads (h : op.PassesOn child input f) {s : op.State} {t : child.State}
    {read : List Answer} (hread : child.Reads true (input s) read t) :
    ∃ t', op.Reads true s (read.filterMap (passOn f)) t' := by
  obtain ⟨dropped, u, hdropped, hnothing, hstate, hnext⟩ := h s
  obtain ⟨rest, rfl, hrest⟩ := hdropped.exists_rest hread
  rw [List.filterMap_append, hnothing, List.nil_append]
  cases hrest with
  | done hend =>
    rcases hnext with ⟨-, hop⟩ | ⟨a, b, hchild, -, -⟩
    · exact ⟨_, .done hop⟩
    · exact absurd (hchild.symm.trans hend) (map_some_ne_end a)
  | @cons _ _ _ a rest hchild hrest =>
    rcases hnext with ⟨hend, -⟩ | ⟨a', b, hchild', hpass, hop⟩
    · exact absurd (hchild.symm.trans hend) (map_some_ne_end a)
    · obtain rfl := map_some_inj (hchild.symm.trans hchild')
      rw [← hstate] at hrest
      obtain ⟨t', ht'⟩ := h.reads hrest
      rw [List.filterMap_cons, hpass]
      exact ⟨t', .cons hop ht'⟩
termination_by read.length
decreasing_by simp_all; omega

end PassesOn

/-- Reading only the rows before or after the answers have been passed on makes no difference. -/
theorem rowsOf_passOn (f : Row → Option Answer) (answers : List Answer) :
    rowsOf (answers.filterMap (passOn f)) =
      (rowsOf answers).filterMap fun row => (f row).bind Except.toOption := by
  induction answers with
  | nil => rfl
  | cons a answers ih =>
    cases a with
    | error e => exact ih
    | ok row =>
      rw [rowsOf_ok, List.filterMap_cons, List.filterMap_cons, passOn, ← ih]
      match f row with
      | none => rfl
      | some (.error e) => rfl
      | some (.ok out) => rfl

/-- Each error that is read is passed on, and each row that fails adds one. -/
theorem errorsIn_passOn (f : Row → Option Answer) (answers : List Answer) :
    errorsIn (answers.filterMap (passOn f)) =
      errorsIn answers + (rowsOf answers).countP fun row => (f row).any (!·.isOk) := by
  induction answers with
  | nil => rfl
  | cons a answers ih =>
    cases a with
    | error e =>
      rw [List.filterMap_cons, passOn, errorsIn_error, errorsIn_error, rowsOf_error, ih]
      omega
    | ok row =>
      rw [rowsOf_ok, errorsIn_ok, List.filterMap_cons, passOn, List.countP_cons]
      match f row with
      | none => exact ih
      | some (.error e) =>
        rw [errorsIn_error, ih]
        rfl
      | some (.ok out) => exact ih

end Operator

variable {child : Operator}

/-- What a filter answers for a row: the row, an error or nothing. -/
def Filter.answer (schema : Schema) (predicate : Expr) (row : Row) : Option Answer :=
  match (predicate.holds schema row.view).outcome with
  | .error e => some (.error e)
  | .ok true => some (.ok row)
  | .ok false => none

/-- The induction is on the rows that the filter goes through in one request. -/
theorem Filter.passesOn (child : Operator) (predicate : Expr) :
    (child.filter predicate).PassesOn child id (answer child.schema predicate) := by
  intro (s : child.State)
  change ∃ dropped u, child.Reads false s dropped u ∧
    dropped.filterMap (passOn (answer child.schema predicate)) = [] ∧
    (next child predicate false s).state = (child.next false u).state ∧
    ((child.next false u).outcome = .ok none ∧ (next child predicate false s).outcome = .ok none ∨
      ∃ a b, (child.next false u).outcome = a.map some ∧
        passOn (answer child.schema predicate) a = some b ∧
        (next child predicate false s).outcome = b.map some)
  induction hleft : child.remaining s using Nat.strong_induction_on generalizing s with
  | _ left ih =>
  match hout : (child.next false s).outcome with
  | .error e =>
    rw [next_error hout]
    exact ⟨[], s, .nil, rfl, rfl, .inr ⟨.error e, .error e, hout, rfl, rfl⟩⟩
  | .ok none =>
    rw [next_end hout]
    exact ⟨[], s, .nil, rfl, rfl, .inl ⟨hout, rfl⟩⟩
  | .ok (some row) =>
    match hverdict : (predicate.holds child.schema row.view).outcome with
    | .error e =>
      obtain ⟨houtcome, hstate⟩ := next_unreadable hout hverdict
      refine ⟨[], s, .nil, rfl, hstate, .inr ⟨.ok row, .error e, hout, ?_, houtcome⟩⟩
      simp only [passOn, answer, hverdict]
    | .ok true =>
      obtain ⟨houtcome, hstate⟩ := next_passed hout (Traced.outcome_eq_ok.mp hverdict)
      refine ⟨[], s, .nil, rfl, hstate, .inr ⟨.ok row, .ok row, hout, ?_, houtcome⟩⟩
      simp only [passOn, answer, hverdict]
    | .ok false =>
      obtain ⟨houtcome, hstate⟩ := next_refused hout (Traced.outcome_eq_ok.mp hverdict)
      obtain ⟨dropped, u, hdropped, hnothing, hlast⟩ :=
        ih _ (hleft ▸ child.remaining_lt hout) (child.next false s).state rfl
      rw [houtcome, hstate]
      refine ⟨.ok row :: dropped, u, .cons hout hdropped, ?_, hlast⟩
      rw [List.filterMap_cons, passOn, answer, hverdict]
      exact hnothing

/-- What a projection answers for a row: the row that it writes, or an error. -/
def Project.answer (projection : Projection) (row : Row) : Option Answer :=
  some (projection.apply row.view).outcome

/-- A projection answers once for each answer of its input. -/
theorem Project.passesOn (child : Operator) (projection : Projection) :
    (child.project projection).PassesOn child id (answer projection) := by
  intro (s : child.State)
  have hstate : ((child.project projection).next false s).state = (child.next false s).state := by
    simp only [Operator.project, next]
    split <;> rfl
  refine ⟨[], s, .nil, rfl, hstate, ?_⟩
  rcases end_or_answer (child.next false s).outcome with hend | ⟨a, ha⟩
  · exact .inl ⟨hend, congrArg Step.outcome (next_end projection hend)⟩
  · cases a with
    | error e =>
      have hout : (child.next false s).outcome = .error e := ha
      refine .inr ⟨.error e, .error e, ha, rfl, ?_⟩
      simp only [Operator.project, next, hout]
      rfl
    | ok row =>
      have hout : (child.next false s).outcome = .ok (some row) := ha
      refine .inr ⟨.ok row, _, ha, rfl, ?_⟩
      simp only [Operator.project, next, hout]

def firstRows : Nat → List Answer → List Answer
  | 0, _ => []
  | _ + 1, [] => []
  | n + 1, a :: answers => a :: firstRows (n + 1 - rowCount (a.map some)) answers

theorem firstRows_nil (n : Nat) : firstRows n [] = [] := by
  cases n <;> rfl

theorem rowsOf_firstRows (n : Nat) (answers : List Answer) :
    rowsOf (firstRows n answers) = (rowsOf answers).take n := by
  fun_induction firstRows n answers with
  | case1 => rfl
  | case2 => rfl
  | case3 n a answers ih =>
    cases a with
    | error e => exact ih
    | ok row => exact congrArg (row :: ·) ih

namespace Limit

variable {count : Nat}

/-- A limit that has handed out its rows stands still, and any other one asks its input. -/
theorem next_cases (child : Operator) (count : Nat) (stopped : Bool)
    (s : (child.limit count).State) :
    count ≤ s.emitted ∧ (child.limit count).next stopped s = ⟨.ok none, s, []⟩ ∨
    (∃ n, count - s.emitted = n + 1) ∧ (child.limit count).next stopped s =
      ⟨(child.next stopped s.input).outcome,
        ⟨(child.next stopped s.input).state,
          s.emitted + rowCount (child.next stopped s.input).outcome⟩,
        (child.next stopped s.input).events⟩ := by
  by_cases hfull : count ≤ s.emitted
  · exact .inl ⟨hfull, if_pos hfull⟩
  · exact .inr ⟨⟨count - s.emitted - 1, by omega⟩, if_neg hfull⟩

/-- If the input can be read up to the end, the limit can, and it answers no more than its rows. -/
theorem reads {s t : child.State} {read : List Answer} (h : child.Reads true s read t)
    (emitted : Nat) : ∃ t', (child.limit count).Reads true ⟨s, emitted⟩
      (firstRows (count - emitted) read) t' := by
  generalize hflag : true = flag at h
  induction h generalizing emitted with
  | nil => cases hflag
  | @done s hend =>
    rw [firstRows_nil]
    rcases next_cases child count false ⟨s, emitted⟩ with ⟨-, hstep⟩ | ⟨-, hstep⟩
    · exact ⟨_, .done (congrArg Step.outcome hstep)⟩
    · exact ⟨_, .done ((congrArg Step.outcome hstep).trans hend)⟩
  | @cons flag s t a read hnext hrest ih =>
    subst hflag
    rcases next_cases child count false ⟨s, emitted⟩ with ⟨hfull, hstep⟩ | ⟨⟨n, hn⟩, hstep⟩
    · rw [Nat.sub_eq_zero_of_le hfull]
      exact ⟨_, .done (congrArg Step.outcome hstep)⟩
    · obtain ⟨t', ht'⟩ := ih (emitted + rowCount (a.map some)) rfl
      have hstate : ((child.limit count).next false ⟨s, emitted⟩).state =
          ⟨(child.next false s).state, emitted + rowCount (a.map some)⟩ := by
        rw [hstep, hnext]
      rw [← hstate, ← Nat.sub_sub, hn] at ht'
      rw [hn, firstRows]
      exact ⟨t', .cons ((congrArg Step.outcome hstep).trans hnext) ht'⟩

/-- A limit answers what it reads of its input, which it does not read beyond its last row. -/
theorem exists_read {ended : Bool} {s t : (child.limit count).State} {answers : List Answer}
    (h : (child.limit count).Reads ended s answers t) :
    (∃ ended', child.Reads ended' s.input answers t.input) ∧
      firstRows (count - s.emitted) answers = answers := by
  induction h with
  | nil => exact ⟨⟨false, .nil⟩, firstRows_nil _⟩
  | @done s hend =>
    refine ⟨?_, firstRows_nil _⟩
    rcases next_cases child count false s with ⟨-, hstep⟩ | ⟨-, hstep⟩
    · rw [hstep]
      exact ⟨false, .nil⟩
    · rw [hstep] at hend ⊢
      exact ⟨true, .done hend⟩
  | @cons ended s t a answers hnext hrest ih =>
    rcases next_cases child count false s with ⟨-, hstep⟩ | ⟨⟨n, hn⟩, hstep⟩
    · rw [hstep] at hnext
      exact absurd hnext.symm (map_some_ne_end a)
    · rw [hstep] at hnext ih
      obtain ⟨⟨ended', hread⟩, hfirst⟩ := ih
      rw [← Nat.sub_sub, hnext, hn] at hfirst
      rw [hn, firstRows, hfirst]
      exact ⟨⟨ended', .cons hnext hread⟩, rfl⟩

/-- A limit counts the rows that it hands out, and failures not. -/
theorem emitted_next (stopped : Bool) (s : (child.limit count).State) :
    ((child.limit count).next stopped s).state.emitted =
      s.emitted + rowCount ((child.limit count).next stopped s).outcome := by
  rcases next_cases child count stopped s with ⟨-, hstep⟩ | ⟨-, hstep⟩
  · rw [hstep]
    rfl
  · rw [hstep]

/-- A limit counts the rows that it hands out. -/
theorem emitted_run_of_not_rescan (task : Task (child.limit count)) {commands : List Command}
    (hrescan : .rescan ∉ commands) :
    (task.run commands).state.emitted = task.state.emitted + rowsIn (task.answers commands) := by
  induction commands generalizing task with
  | nil => rfl
  | cons command commands ih =>
    have hrun := ih (task.after command) fun hmem => hrescan (.tail _ hmem)
    cases command with
    | next =>
      rw [Task.answers, rowsIn_cons, ← Nat.add_assoc, ← emitted_next]
      exact hrun
    | rescan => exact absurd (.head _) hrescan
    | close => exact hrun
    | stop => exact hrun

/-- A limit that is used up stays as it is. -/
theorem run_full {task : Task (child.limit count)} (h : count ≤ task.state.emitted) (n : Nat) :
    task.run (List.replicate n .next) = task := by
  induction n with
  | zero => rfl
  | succ n ih =>
    have hstep : (child.limit count).next task.stopped task.state = ⟨.ok none, task.state, []⟩ :=
      if_pos h
    rw [List.replicate_succ, Task.run, List.foldl_cons, ← Task.run, Task.after, hstep]
    exact ih

/-- Once a limit has handed out all of its rows, requests change neither it nor its input. -/
theorem run_spent {commands : List Command} (hrescan : .rescan ∉ commands)
    (hcount : rowsIn ((Task.start (child.limit count)).answers commands) = count) (n : Nat) :
    ((Task.start (child.limit count)).run commands).run (List.replicate n .next) =
      (Task.start (child.limit count)).run commands := by
  have hemitted : ((Task.start (child.limit count)).run commands).state.emitted = 0 + _ :=
    emitted_run_of_not_rescan (Task.start (child.limit count)) hrescan
  rw [Nat.zero_add] at hemitted
  exact run_full (Nat.le_of_eq (hemitted.trans hcount).symm) n

end Limit

namespace Script

variable {script : Script}

/-- The number of requests that fail among the first ones. -/
def faultsBefore (script : Script) (n : Nat) : Nat :=
  (List.range n).countP fun k => (script.pullFault k).isSome

theorem faultsBefore_succ (script : Script) (n : Nat) :
    script.faultsBefore (n + 1) =
      script.faultsBefore n + if (script.pullFault n).isSome then 1 else 0 := by
  rw [faultsBefore, List.range_succ, List.countP_append, List.countP_singleton]
  rfl

/-- A request fails, or it is answered with the end or with the row at the cursor. -/
theorem next_cases (script : Script) (stopped : Bool) (s : (Operator.scripted script).State) :
    (∃ e, script.pullFault s.pulls = some e ∧ (Operator.scripted script).next stopped s =
      ⟨.error e, { s with pulls := s.pulls + 1 }, []⟩) ∨
    script.pullFault s.pulls = none ∧
      (script.rows[s.cursor]? = none ∧ (Operator.scripted script).next stopped s =
        ⟨.ok none, { s with pulls := s.pulls + 1 }, []⟩ ∨
      ∃ row, script.rows[s.cursor]? = some row ∧ (Operator.scripted script).next stopped s =
        ⟨.ok (some row), { s with pulls := s.pulls + 1, cursor := s.cursor + 1 }, []⟩) := by
  cases hfault : script.pullFault s.pulls with
  | some e => exact .inl ⟨e, rfl, next_fault hfault⟩
  | none =>
    refine .inr ⟨rfl, ?_⟩
    cases hrow : script.rows[s.cursor]? with
    | none => exact .inl ⟨rfl, next_end hfault hrow⟩
    | some row => exact .inr ⟨row, rfl, next_row hfault hrow⟩

/-- The rows that were handed out come first in the script, and each request that failed was
answered with one error. -/
theorem reads_counts {ended : Bool} {s t : (Operator.scripted script).State} {read : List Answer}
    (h : (Operator.scripted script).Reads ended s read t) :
    script.rows.take t.cursor = script.rows.take s.cursor ++ rowsOf read ∧
      script.faultsBefore t.pulls = script.faultsBefore s.pulls + errorsIn read := by
  induction h with
  | nil => exact ⟨(List.append_nil _).symm, rfl⟩
  | @done s hend =>
    rcases next_cases script false s with ⟨e, -, hstep⟩ | ⟨hfault, ⟨-, hstep⟩ | ⟨row, -, hstep⟩⟩
    · rw [hstep] at hend
      cases hend
    · rw [hstep, faultsBefore_succ, hfault]
      exact ⟨(List.append_nil _).symm, rfl⟩
    · rw [hstep] at hend
      cases hend
  | @cons ended s t a answers hnext hrest ih =>
    obtain ⟨hrows, herrors⟩ := ih
    rw [hrows, herrors]
    rcases next_cases script false s with
      ⟨e, hfault, hstep⟩ | ⟨hfault, ⟨-, hstep⟩ | ⟨row, hrow, hstep⟩⟩
    · rw [hstep] at hnext ⊢
      obtain rfl : Except.error e = a := map_some_inj hnext
      rw [faultsBefore_succ, hfault, errorsIn_error]
      exact ⟨rfl, by simp; omega⟩
    · rw [hstep] at hnext
      exact absurd hnext.symm (map_some_ne_end a)
    · rw [hstep] at hnext ⊢
      obtain rfl : Except.ok row = a := map_some_inj hnext
      rw [faultsBefore_succ, hfault, errorsIn_ok, List.take_add_one, hrow]
      exact ⟨by simp, by simp⟩

/-- A script of which only some requests fail can be read up to the end. The recursion is on the
rows and the requests that may fail which are still to come. -/
theorem exists_reads {n : Nat} (hfaults : ∀ k, n ≤ k → script.pullFault k = none)
    (s : (Operator.scripted script).State) :
    ∃ read t, (Operator.scripted script).Reads true s read t ∧
      rowsOf read = script.rows.drop s.cursor := by
  rcases next_cases script false s with
    ⟨e, hfault, hstep⟩ | ⟨-, ⟨hrow, hstep⟩ | ⟨row, hrow, hstep⟩⟩
  · have hlt : s.pulls < n := by
      by_contra hle
      simp [hfaults s.pulls (Nat.le_of_not_lt hle)] at hfault
    obtain ⟨read, t, hread, hrows⟩ := exists_reads hfaults { s with pulls := s.pulls + 1 }
    refine ⟨.error e :: read, t, .cons (congrArg Step.outcome hstep) ?_, hrows⟩
    rwa [hstep]
  · refine ⟨[], _, .done (congrArg Step.outcome hstep), ?_⟩
    rw [List.drop_eq_nil_of_le (List.getElem?_eq_none_iff.mp hrow)]
    rfl
  · obtain ⟨hlt, hget⟩ := List.getElem?_eq_some_iff.mp hrow
    obtain ⟨read, t, hread, hrows⟩ :=
      exists_reads hfaults { s with pulls := s.pulls + 1, cursor := s.cursor + 1 }
    refine ⟨.ok row :: read, t, .cons (congrArg Step.outcome hstep) ?_, ?_⟩
    · rwa [hstep]
    · rw [rowsOf_ok, hrows, List.drop_eq_getElem_cons hlt, hget]
termination_by (n - s.pulls) + (script.rows.length - s.cursor)

end Script

end RowEngine
