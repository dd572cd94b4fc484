import RowEngine.Proofs.Operator.Draining

/-!
# Stacks of filters, projections and limits

Filters, projections and limits may be stacked in any order. Whatever fails on the way, draining a
stack hands out the rows that come of the rows at its bottom one operator after the other, without
those on which an operator fails, and it answers one error for each request that fails at the bottom
and for each row on which an operator fails.
-/

namespace RowEngine

open Operator

/-- An operator to be put over another one. -/
inductive Stage where
  | filter (predicate : Expr)
  | project (projection : Projection)
  | limit (count : Nat)

theorem Filter.bind_answer (schema : Schema) (predicate : Expr) (row : Row) :
    (answer schema predicate row).bind Except.toOption =
      if passed (test schema predicate row) then some row else none := by
  unfold answer test Traced.outcome
  match (predicate.holds schema row.view).result with
  | .error e => rfl
  | .ok true => rfl
  | .ok false => rfl

theorem Filter.any_answer (schema : Schema) (predicate : Expr) (row : Row) :
    (answer schema predicate row).any (!·.isOk) = !(test schema predicate row).isOk := by
  unfold answer test Traced.outcome
  match (predicate.holds schema row.view).result with
  | .error e => rfl
  | .ok true => rfl
  | .ok false => rfl

theorem Project.bind_answer (projection : Projection) (row : Row) :
    (answer projection row).bind Except.toOption = (image projection row).toOption := by
  unfold answer image Traced.outcome
  cases (projection.apply row.view).result <;> rfl

theorem Project.any_answer (projection : Projection) (row : Row) :
    (answer projection row).any (!·.isOk) = !(image projection row).isOk := by
  unfold answer image Traced.outcome
  cases (projection.apply row.view).result <;> rfl

namespace Stage

def atop (child : Operator) : Stage → Operator
  | filter predicate => child.filter predicate
  | project projection => child.project projection
  | limit count => child.limit count

def below (child : Operator) : (stage : Stage) → (stage.atop child).State → child.State
  | filter _ => fun s => s
  | project _ => fun s => s
  | limit _ => Limit.State.input

def output (schema : Schema) : Stage → Schema
  | filter _ => schema
  | project projection => projection.output
  | limit _ => schema

/-- What becomes of the answers that are read of the operator below. -/
def answers (schema : Schema) : Stage → List Answer → List Answer
  | filter predicate, read => read.filterMap (passOn (Filter.answer schema predicate))
  | project projection, read => read.filterMap (passOn (Project.answer projection))
  | limit count, read => firstRows count read

/-- What comes of some rows; those on which an expression fails are dropped. -/
def rows (schema : Schema) : Stage → List Row → List Row
  | filter predicate, rows => rows.filter fun row => passed (Filter.test schema predicate row)
  | project projection, rows => rows.filterMap fun row => (Project.image projection row).toOption
  | limit count, rows => rows.take count

/-- The number of rows on which an expression fails. -/
def failing (schema : Schema) : Stage → List Row → Nat
  | filter predicate, rows => rows.countP fun row => !(Filter.test schema predicate row).isOk
  | project projection, rows => rows.countP fun row => !(Project.image projection row).isOk
  | limit _, _ => 0

theorem schema_atop (child : Operator) (stage : Stage) :
    (stage.atop child).schema = stage.output child.schema := by
  cases stage <;> rfl

/-- A failure on a row drops that row and no other. -/
theorem rowsOf_answers (schema : Schema) (stage : Stage) (read : List Answer) :
    rowsOf (stage.answers schema read) = stage.rows schema (rowsOf read) := by
  cases stage with
  | filter predicate =>
    rw [answers, rowsOf_passOn, rows, ← List.filterMap_eq_filter]
    exact congrArg (List.filterMap · (rowsOf read)) (funext (Filter.bind_answer schema predicate))
  | project projection =>
    rw [answers, rowsOf_passOn, rows]
    exact congrArg (List.filterMap · (rowsOf read)) (funext (Project.bind_answer projection))
  | limit count => exact rowsOf_firstRows count read

variable {child : Operator}

/-- If the operator below can be drained, so can the one over it. -/
theorem reads_atop (stage : Stage) {read : List Answer} {u : child.State}
    (h : child.Reads true child.start read u) :
    ∃ t, (stage.atop child).Reads true (stage.atop child).start
      (stage.answers child.schema read) t := by
  cases stage with
  | filter predicate => exact (Filter.passesOn child predicate).reads h
  | project projection => exact (Project.passesOn child projection).reads h
  | limit count => exact Limit.reads h 0

/-- All answers come of what was read of the operator below, and all errors too. -/
theorem exists_read {stage : Stage} {ended : Bool} {results : List Answer}
    {t : (stage.atop child).State}
    (h : (stage.atop child).Reads ended (stage.atop child).start results t) :
    ∃ ended' read, child.Reads ended' child.start read (stage.below child t) ∧
      results = stage.answers child.schema read ∧
      errorsIn results = errorsIn read + stage.failing child.schema (rowsOf read) := by
  cases stage with
  | filter predicate =>
    obtain ⟨read, hread, rfl⟩ := (Filter.passesOn child predicate).exists_read h
    refine ⟨ended, read, hread, rfl, ?_⟩
    simp only [errorsIn_passOn, failing, Filter.any_answer]
  | project projection =>
    obtain ⟨read, hread, rfl⟩ := (Project.passesOn child projection).exists_read h
    refine ⟨ended, read, hread, rfl, ?_⟩
    simp only [errorsIn_passOn, failing, Project.any_answer]
  | limit count =>
    obtain ⟨⟨ended', hread⟩, hfirst⟩ := Limit.exists_read h
    exact ⟨ended', results, hread, hfirst.symm, rfl⟩

/-- Puts stages over an operator, the first one at the bottom. -/
def stack : Operator → List Stage → Operator
  | child, [] => child
  | child, stage :: stages => stack (stage.atop child) stages

def bottom : (child : Operator) → (stages : List Stage) → (stack child stages).State → child.State
  | _, [], s => s
  | child, stage :: stages, s => stage.below child (bottom (stage.atop child) stages s)

def answersThrough (schema : Schema) : List Stage → List Answer → List Answer
  | [], read => read
  | stage :: stages, read =>
    answersThrough (stage.output schema) stages (stage.answers schema read)

def rowsThrough (schema : Schema) : List Stage → List Row → List Row
  | [], rows => rows
  | stage :: stages, rows => rowsThrough (stage.output schema) stages (stage.rows schema rows)

/-- The number of rows that fail, each at the stage where it does. -/
def failingThrough (schema : Schema) : List Stage → List Row → Nat
  | [], _ => 0
  | stage :: stages, rows =>
    stage.failing schema rows +
      failingThrough (stage.output schema) stages (stage.rows schema rows)

theorem rowsOf_answersThrough (schema : Schema) (stages : List Stage) (read : List Answer) :
    rowsOf (answersThrough schema stages read) = rowsThrough schema stages (rowsOf read) := by
  induction stages generalizing schema read with
  | nil => rfl
  | cons stage stages ih => rw [answersThrough, rowsThrough, ih, rowsOf_answers]

/-- What can be drained below a stack can be drained through it. -/
theorem reads_stack (stages : List Stage) {child : Operator} {read : List Answer} {u : child.State}
    (h : child.Reads true child.start read u) :
    ∃ t, (stack child stages).Reads true (stack child stages).start
      (answersThrough child.schema stages read) t := by
  induction stages generalizing child read with
  | nil => exact ⟨u, h⟩
  | cons stage stages ih =>
    obtain ⟨t, ht⟩ := reads_atop stage h
    rw [answersThrough, ← schema_atop]
    exact ih ht

/-- Whatever is read of a stack was read of what is below, with one failure for each that came up
and one for each row that a stage fails on. -/
theorem exists_read_stack (stages : List Stage) {child : Operator} {ended : Bool}
    {results : List Answer} {t : (stack child stages).State}
    (h : (stack child stages).Reads ended (stack child stages).start results t) :
    ∃ ended' read, child.Reads ended' child.start read (bottom child stages t) ∧
      results = answersThrough child.schema stages read ∧
      errorsIn results = errorsIn read + failingThrough child.schema stages (rowsOf read) := by
  induction stages generalizing child with
  | nil => exact ⟨ended, results, h, rfl, rfl⟩
  | cons stage stages ih =>
    obtain ⟨_, middle, hmiddle, hresults, herrors⟩ := ih h
    obtain ⟨ended', read, hread, rfl, herrors'⟩ := exists_read hmiddle
    rw [schema_atop] at hresults herrors
    refine ⟨ended', read, hread, hresults, ?_⟩
    rw [herrors, herrors', rowsOf_answers, failingThrough, Nat.add_assoc]

/-- A stack over a script of which only some requests fail can be drained in one way. It hands out
what comes of all rows of the script, without those on which a stage fails. There is one error for
each request that failed at the bottom, and one for each row that was handed out there and then
failed at a stage. A limit that has handed out all of its rows asks its input for nothing any more.
-/
theorem drain_stack (script : Script) (stages : List Stage) {n : Nat}
    (hfaults : ∀ k, n ≤ k → script.pullFault k = none) :
    let op := stack (.scripted script) stages
    (∃ results t, op.Reads true op.start results t ∧
      (∀ results' t', op.Reads true op.start results' t' → results' = results ∧ t' = t) ∧
      rowsOf results = rowsThrough script.schema stages script.rows ∧
      let s := bottom (.scripted script) stages t
      ∃ ended read, (Operator.scripted script).Reads ended (Operator.scripted script).start read s ∧
        results = answersThrough script.schema stages read ∧
        rowsOf read = script.rows.take s.cursor ∧
        errorsIn read = script.faultsBefore s.pulls ∧
        errorsIn results = script.faultsBefore s.pulls +
          failingThrough script.schema stages (script.rows.take s.cursor)) ∧
    ∀ (child : Operator) (count : Nat) (commands : List Command), .rescan ∉ commands →
      let task := Task.start (child.recorded.limit count)
      rowsIn (task.answers commands) = count →
      ∀ k, (task.run commands).run (List.replicate k .next) = task.run commands := by
  intro op
  constructor
  · obtain ⟨all, u, hall, hrows⟩ :=
      Script.exists_reads hfaults (Operator.scripted script).start
    obtain ⟨t, ht⟩ := reads_stack stages hall
    refine ⟨_, t, ht, fun results' t' h' => h'.unique ht, ?_, ?_⟩
    · exact (rowsOf_answersThrough script.schema stages all).trans
        (congrArg (rowsThrough script.schema stages) hrows)
    · intro s
      obtain ⟨ended, read, hread, hresults, herrors⟩ := exists_read_stack stages ht
      obtain ⟨hcursor, hfaulty⟩ := Script.reads_counts hread
      have hrows : rowsOf read = script.rows.take s.cursor := hcursor.symm
      have hfaulty : errorsIn read = script.faultsBefore s.pulls :=
        (hfaulty.trans (Nat.zero_add _)).symm
      refine ⟨ended, read, hread, hresults, hrows, hfaulty, ?_⟩
      rw [← hrows, ← hfaulty]
      exact herrors
  · intro child count commands hrescan task hcount k
    exact Limit.run_spent hrescan hcount k

/-- Two requests fail, the filter fails on a zero and the projection on a one; the limit still hands
out two rows. -/
theorem drain_stack_integers :
    let rows : List Row := [5, 0, 2, 1, 3, 4].map fun n => [.integer n]
    let schema : Schema := ⟨[⟨"a", .integer, false⟩]⟩
    let script : Script := ⟨schema, rows,
      fun k => if k = 0 ∨ k = 3 then some (.internal "read failed") else none, none, none, .zero⟩
    let a := Expr.column 0 .integer "a"
    let sixth := Expr.binary .divide (.const (.integer 6)) a .integer
    let less := Expr.binary .minus a (.const (.integer 1)) .integer
    let stages := [filter (.binary .greater sixth (.const (.integer 1)) .boolean),
      project ⟨schema, schema, some [⟨.binary .divide (.const (.integer 1)) less .integer, "a"⟩]⟩,
      limit 2]
    let op := stack (.scripted script) stages
    let task := Task.start ((Operator.scripted script).recorded.limit 1)
    (∀ k, 4 ≤ k → script.pullFault k = none) ∧
      (∃ results t, op.Reads true op.start results t ∧
        rowsOf results = [[.integer 1], [.integer 0]] ∧
        errorsIn results = script.faultsBefore (bottom (.scripted script) stages t).pulls +
          failingThrough schema stages
            (rows.take (bottom (.scripted script) stages t).cursor)) ∧
      rowsIn (task.answers [.next, .next]) = 1 ∧
      (task.run [.next, .next]).run [.next, .next] = task.run [.next, .next] := by
  intro rows schema script a sixth less stages op task
  have hfaults : ∀ k, 4 ≤ k → script.pullFault k = none := by
    intro k hk
    exact if_neg (by omega)
  obtain ⟨⟨results, t, hreads, -, hrows, -, -, -, -, -, -, herrors⟩, hlimit⟩ :=
    drain_stack script stages hfaults
  have hcount : rowsIn (task.answers [.next, .next]) = 1 := by decide +kernel
  refine ⟨hfaults, ⟨results, t, hreads, hrows.trans (by decide +kernel), herrors⟩, hcount, ?_⟩
  exact hlimit (.scripted script) 1 [.next, .next] (by decide) hcount 2

end Stage

end RowEngine
