import RowEngine.Operator.Leaf
import RowEngine.Operator.Sorting
import RowEngine.Operator.Streaming
import RowEngine.Proofs.Stream

/-!
# What operators hand out

A property of all rows that an operator can hand out rests on an invariant of its states that every
request keeps, also one that fails. The invariant of an operator is made from those of its inputs.
Nothing is asked of the expressions but what they say of the rows they succeed on.
-/

namespace RowEngine

/-- Every request keeps `Inv`, and from a state in which it holds, only rows with the property are
handed out. -/
structure Operator.Emits (op : Operator) (P : Row → Prop) (Inv : op.State → Prop) : Prop where
  start : Inv op.start
  next : ∀ stopped s, Inv s → Inv (op.next stopped s).state
  row : ∀ stopped s row, Inv s → (op.next stopped s).outcome = .ok (some row) → P row
  rescan : ∀ s, Inv s → Inv (op.rescan s).state

/-- Nothing is known of the rows of any operator. -/
theorem Operator.emits_any (op : Operator) : op.Emits (fun _ => True) fun _ => True :=
  ⟨trivial, fun _ _ _ => trivial, fun _ _ _ _ _ => trivial, fun _ _ => trivial⟩

namespace Operator.Emits

variable {β : Type} {op : Operator} {P Q : Row → Prop} {Inv : op.State → Prop} {s : op.State}

theorem mono (h : op.Emits P Inv) (hPQ : ∀ row, P row → Q row) : op.Emits Q Inv :=
  ⟨h.start, h.next, fun stopped s row hs hrow => hPQ row (h.row stopped s row hs hrow), h.rescan⟩

/-- Feeding the rows to a function keeps what the function makes of rows with the property. -/
theorem fold (h : op.Emits P Inv) (stopped : Bool) {f : β → Row → Except Failure β} {J : β → Prop}
    (hf : ∀ acc row acc', J acc → P row → f acc row = .ok acc' → J acc') {acc : β} (hacc : J acc)
    (hs : Inv s) :
    Inv (op.fold stopped f acc s).state ∧
      ∀ result, (op.fold stopped f acc s).outcome = .ok result → J result := by
  fun_induction Operator.fold op stopped f acc s with
  | case1 acc s => exact ⟨h.next stopped s hs, by simp⟩
  | case2 acc s =>
    refine ⟨h.next stopped s hs, ?_⟩
    rintro result ⟨⟩
    exact hacc
  | case3 acc s => exact ⟨h.next stopped s hs, by simp⟩
  | case4 acc s _ row hrow acc' hacc' ih =>
    exact ih (hf acc row acc' hacc (h.row stopped s row hs hrow) hacc') (h.next stopped s hs)

/-- Collecting keeps the invariant on every pull, so all that is collected has the property. -/
theorem collect (h : op.Emits P Inv) (stopped : Bool) (hs : Inv s) :
    Inv (op.collect stopped s).state ∧
      ∀ rows, (op.collect stopped s).outcome = .ok rows → ∀ row ∈ rows, P row := by
  have hpush : ∀ taken row taken', (∀ r ∈ taken, P r) → P row → push taken row = .ok taken' →
      ∀ r ∈ taken', P r := by
    rintro taken row _ htaken hrow ⟨⟩
    exact List.forall_mem_cons.mpr ⟨hrow, htaken⟩
  have hnil : ∀ r ∈ ([] : List Row), P r := by simp
  obtain ⟨hstate, hrows⟩ := h.fold stopped (J := fun taken => ∀ r ∈ taken, P r) hpush hnil hs
  rw [collect_eq_fold]
  refine ⟨hstate, ?_⟩
  intro rows hcollect row hrow
  obtain ⟨reversed, hreversed, rfl⟩ := map_eq_ok.mp hcollect
  exact hrows reversed hreversed row (List.mem_reverse.mp hrow)

/-- The invariant holds after any requests. -/
theorem run (h : op.Emits P Inv) (session : Session op) (hs : Inv session.state)
    (requests : List Request) : Inv (session.run requests).state :=
  session.run_keeps h.next h.rescan hs requests

/-- Whatever has been asked before, the next row has the property. -/
theorem next_run (h : op.Emits P Inv) (requests : List Request) {row : Row}
    (hrow : (op.next false ((Session.start op).run requests).state).outcome = .ok (some row)) :
    P row :=
  h.row false _ row (h.run (Session.start op) h.start requests) hrow

end Operator.Emits

theorem Operator.Emits.scan {relation : Relation} {P : Row → Prop}
    (h : ∀ row ∈ relation.rows, P row) : (Operator.scan relation).Emits P fun _ => True := by
  refine ⟨trivial, fun _ _ _ => trivial, ?_, fun _ _ => trivial⟩
  intro stopped s row _ hrow
  simp only [Operator.scan, Scan.next] at hrow
  split at hrow
  · cases hrow
  split at hrow
  · cases hrow
  · rename_i hget
    cases hrow
    exact h row (List.mem_of_getElem? hget)

section

variable {child : Operator} {P Q : Row → Prop} {Inv : child.State → Prop}

/-- The induction is on the rows that a filter goes through in one request. -/
theorem Filter.next_emits (h : child.Emits P Inv) (predicate : Expr) (stopped : Bool)
    {s : child.State} (hs : Inv s) :
    Inv (next child predicate stopped s).state ∧
      ∀ row, (next child predicate stopped s).outcome = .ok (some row) → P row := by
  have hnext {s : child.State} (hs : Inv s) := h.next stopped s hs
  fun_induction next child predicate stopped s with
  | case1 s => exact ⟨hnext hs, by simp⟩
  | case2 s => exact ⟨hnext hs, by simp⟩
  | case3 s => exact ⟨hnext hs, by simp⟩
  | case4 s _ row hrow =>
    refine ⟨hnext hs, ?_⟩
    rintro _ ⟨⟩
    exact h.row stopped s row hs hrow
  | case5 s _ _ _ _ _ _ ih => exact ih (hnext hs)

/-- A filter only hands out rows that it was given. -/
theorem Operator.Emits.filter (h : child.Emits P Inv) (predicate : Expr) :
    (child.filter predicate).Emits P Inv := by
  refine ⟨h.start, ?_, ?_, h.rescan⟩
  · intro stopped s hs
    exact (Filter.next_emits h predicate stopped hs).1
  · intro stopped s row hs
    exact (Filter.next_emits h predicate stopped hs).2 row

/-- A filter hands out only rows on which its predicate is true. -/
theorem Filter.holds_of_next {predicate : Expr} {stopped : Bool} {s : child.State} {row : Row}
    (h : (next child predicate stopped s).outcome = .ok (some row)) :
    (predicate.holds child.schema row.view).result = .ok true := by
  fun_induction next child predicate stopped s with
  | case1 => cases h
  | case2 => cases h
  | case3 => cases h
  | case4 s step row' hrow verdict events htrue =>
    obtain rfl := Option.some.inj (Except.ok.inj h)
    exact Traced.outcome_eq_ok.mp htrue
  | case5 s step row' hrow verdict events hfalse ih => exact ih h

/-- A projection hands out what it writes for the rows of its input. -/
theorem Operator.Emits.project (h : child.Emits P Inv) {projection : Projection}
    (hwrite : ∀ row out, P row → (projection.apply row.view).result = .ok out → Q out) :
    (child.project projection).Emits Q Inv := by
  refine ⟨h.start, ?_, ?_, h.rescan⟩
  · intro stopped s hs
    have hnext := h.next stopped s hs
    simp only [Operator.project, Project.next]
    split <;> exact hnext
  · intro stopped s out hs hout
    simp only [Operator.project, Project.next] at hout
    split at hout
    · cases hout
    · cases hout
    · rename_i row hrow
      obtain ⟨written, hwritten, heq⟩ := map_eq_ok.mp hout
      obtain rfl := Option.some.inj heq
      exact hwrite row written (h.row stopped s row hs hrow) (Traced.outcome_eq_ok.mp hwritten)

theorem Operator.Emits.limit (h : child.Emits P Inv) (count : Nat) :
    (child.limit count).Emits P fun s => Inv s.input := by
  refine ⟨h.start, ?_, ?_, fun s hs => h.rescan s.input hs⟩
  · intro stopped s hs
    simp only [Operator.limit, Limit.next]
    split
    · exact hs
    · exact h.next stopped s.input hs
  · intro stopped s row hs hrow
    simp only [Operator.limit, Limit.next] at hrow
    split at hrow
    · cases hrow
    · exact h.row stopped s.input row hs hrow

/-- The input is in order, and all sorted rows came from it. -/
structure Sorting.Holds (P : Row → Prop) (Inv : child.State → Prop) (s : State child.State) :
    Prop where
  input : Inv s.input
  sorted : ∀ rows cursor, s.phase = .sorted rows cursor → ∀ row ∈ rows, P row

theorem Sorting.emit_eq (rows : List Row) (cursor : Nat) :
    (emit rows cursor).1 = rows[cursor]? ∧ ∃ moved, (emit rows cursor).2 = .sorted rows moved := by
  unfold emit
  cases hrow : rows[cursor]? with
  | none => exact ⟨rfl, _, rfl⟩
  | some row => exact ⟨rfl, _, rfl⟩

/-- Answering from sorted rows with the property. -/
theorem Sorting.emit_holds {rows : List Row} (hrows : ∀ row ∈ rows, P row) (cursor : Nat)
    {input : child.State} (hinput : Inv input) (closed : Bool) :
    Holds P Inv ⟨input, (emit rows cursor).2, closed⟩ ∧
      ∀ row, (emit rows cursor).1 = some row → P row := by
  obtain ⟨hrow, moved, hphase⟩ := emit_eq rows cursor
  refine ⟨⟨hinput, ?_⟩, ?_⟩
  · rintro rows' cursor' h
    rw [hphase] at h
    cases h
    exact hrows
  · intro row h
    rw [hrow] at h
    exact hrows row (List.mem_of_getElem? h)

/-- The rows that a sort has drained have the property, wherever its cursor stands. -/
theorem Sorting.next_emits (h : child.Emits P Inv) (keys : List SortKey) (stopped : Bool)
    {s : State child.State} (hs : Holds P Inv s) :
    Holds P Inv (next child keys stopped s).state ∧
      ∀ row, (next child keys stopped s).outcome = .ok (some row) → P row := by
  obtain ⟨hinput, hsorted⟩ := hs
  unfold next
  split
  · exact ⟨⟨hinput, hsorted⟩, by simp⟩
  split
  · rename_i rows cursor hphase
    obtain ⟨hstate, hrow⟩ := emit_holds (hsorted rows cursor hphase) cursor hinput s.closed
    exact ⟨hstate, fun row he => hrow row (Except.ok.inj he)⟩
  · rename_i hphase
    obtain ⟨hdrained, hrows⟩ := h.collect stopped hinput
    dsimp only
    split
    · exact ⟨⟨hdrained, by simp [hphase]⟩, by simp⟩
    · rename_i rows hcollect
      have hsort : ∀ row ∈ sortRows keys rows, P row := by
        intro row hrow
        exact hrows rows hcollect row (List.mem_mergeSort.mp hrow)
      obtain ⟨hstate, hrow⟩ := emit_holds hsort 0 hdrained s.closed
      exact ⟨hstate, fun row he => hrow row (Except.ok.inj he)⟩

theorem Operator.Emits.sort (h : child.Emits P Inv) (keys : List SortKey) :
    (child.sort keys).Emits P (Sorting.Holds P Inv) := by
  constructor
  · exact ⟨h.start, by simp [Operator.sort]⟩
  · intro stopped s hs
    exact (Sorting.next_emits h keys stopped hs).1
  · intro stopped s row hs
    exact (Sorting.next_emits h keys stopped hs).2 row
  · rintro ⟨input, phase, closed⟩ ⟨hinput, hsorted⟩
    cases phase with
    | unsorted => exact ⟨h.rescan input hinput, by simp [Operator.sort, Sorting.rescan]⟩
    | sorted rows cursor =>
      refine ⟨hinput, ?_⟩
      rintro _ _ ⟨⟩
      exact hsorted rows cursor rfl

end

end RowEngine
