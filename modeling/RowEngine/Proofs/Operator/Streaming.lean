import RowEngine.Operator.Leaf
import RowEngine.Operator.Streaming
import RowEngine.Proofs.Stream

/-!
# Scans, filters, projections and limits as streams

Each operator is described by the rows still to come at its states, in terms of those of its input.
-/

namespace RowEngine

/-- The rows behind the cursor are still to come. -/
def Scan.At (rows : List Row) (s : State) (rest : List Row) : Prop :=
  s.closed = false ∧ rest = rows.drop s.cursor

/-- A scan replays the rows of its table. -/
theorem Operator.Replays.scan (relation : Relation) :
    (Operator.scan relation).Replays relation.rows (Scan.At relation.rows) := by
  constructor
  · apply streams_of_next
    rintro s rest ⟨hopen, rfl⟩
    rw [List.head?_drop, List.tail_drop]
    cases hrow : relation.rows[s.cursor]? with
    | none =>
      have hempty := drop_succ_of_end hrow
      simp [Operator.scan, Scan.next, Scan.At, hopen, hrow, hempty]
    | some row => simp [Operator.scan, Scan.next, Scan.At, hopen, hrow]
  · exact ⟨rfl, rfl⟩
  · rintro s rest ⟨hopen, -⟩
    exact ⟨rfl, hopen, rfl⟩

theorem Operator.collect_scan (relation : Relation) :
    ((Operator.scan relation).collect false (Operator.scan relation).start).outcome =
      .ok relation.rows :=
  ((Operator.Replays.scan relation).streams.collect (Operator.Replays.scan relation).start).1

variable {child : Operator} {AtChild : child.State → List Row → Prop} {predicate : Expr}
  {projection : Projection} {stopped : Bool} {s : child.State} {row : Row}

def Filter.test (schema : Schema) (predicate : Expr) (row : Row) : Except EvalError Bool :=
  (predicate.holds schema row.view).result

/-- The rows still to come are those of the input on which the predicate is true. -/
def Filter.At (predicate : Expr) (AtChild : child.State → List Row → Prop) (s : child.State)
    (rest : List Row) : Prop :=
  ∃ input, AtChild s input ∧ input.filterM (Filter.test child.schema predicate) = .ok rest

theorem Filter.next_error {e : Failure} (h : (child.next stopped s).outcome = .error e) :
    next child predicate stopped s =
      ⟨.error e, (child.next stopped s).state, (child.next stopped s).events⟩ := by
  rw [next]
  split <;> simp_all

theorem Filter.next_end (h : (child.next stopped s).outcome = .ok none) :
    next child predicate stopped s =
      ⟨.ok none, (child.next stopped s).state, (child.next stopped s).events⟩ := by
  rw [next]
  split <;> simp_all

theorem Filter.next_unreadable {e : Failure} (h : (child.next stopped s).outcome = .ok (some row))
    (hverdict : (predicate.holds child.schema row.view).outcome = .error e) :
    (next child predicate stopped s).outcome = .error e ∧
      (next child predicate stopped s).state = (child.next stopped s).state := by
  rw [next]
  split <;> simp_all

theorem Filter.next_passed (h : (child.next stopped s).outcome = .ok (some row))
    (htest : test child.schema predicate row = .ok true) :
    (next child predicate stopped s).outcome = .ok (some row) ∧
      (next child predicate stopped s).state = (child.next stopped s).state := by
  have hverdict := Traced.outcome_eq_ok.mpr htest
  rw [next]
  split <;> simp_all

theorem Filter.next_refused (h : (child.next stopped s).outcome = .ok (some row))
    (htest : test child.schema predicate row = .ok false) :
    (next child predicate stopped s).outcome =
        (next child predicate stopped (child.next stopped s).state).outcome ∧
      (next child predicate stopped s).state =
        (next child predicate stopped (child.next stopped s).state).state := by
  have hverdict := Traced.outcome_eq_ok.mpr htest
  rw [next]
  split
  · simp_all
  · simp_all
  · rename_i row' h'
    obtain rfl : row = row' := by simpa [h] using h'
    simp only [hverdict, Step.outcome_after, Step.state_after, and_self]

/-- The induction is on the rows of the input that the filter goes through in one request. -/
theorem Filter.next_at (hchild : child.Streams AtChild (AtChild · [])) {input rest : List Row}
    (hs : AtChild s input) (hrest : input.filterM (Filter.test child.schema predicate) = .ok rest) :
    (Filter.next child predicate false s).outcome = .ok rest.head? ∧
      Filter.At predicate AtChild (Filter.next child predicate false s).state rest.tail := by
  induction input generalizing s with
  | nil =>
    obtain rfl := filterM_nil_eq_ok.mp hrest
    obtain ⟨hnext, hend⟩ := hchild.done s hs
    rw [Filter.next_end hnext]
    exact ⟨rfl, [], hend, hrest⟩
  | cons row input ih =>
    obtain ⟨hnext, hstate⟩ := hchild.row s row input hs
    obtain ⟨passes, more, hpasses, hmore, rfl⟩ := filterM_cons_eq_ok.mp hrest
    cases passes with
    | true =>
      obtain ⟨houtcome, hsame⟩ := Filter.next_passed hnext hpasses
      rw [houtcome, hsame]
      exact ⟨rfl, input, hstate, hmore⟩
    | false =>
      obtain ⟨houtcome, hsame⟩ := Filter.next_refused hnext hpasses
      rw [houtcome, hsame]
      exact ih hstate hmore

/-- A filter replays the rows on which its predicate is true, if it fails on none. -/
theorem Operator.Replays.filter {input rows : List Row} (hchild : child.Replays input AtChild)
    (hrows : input.filterM (Filter.test child.schema predicate) = .ok rows) :
    (child.filter predicate).Replays rows (Filter.At predicate AtChild) := by
  constructor
  · apply streams_of_next
    rintro s rest ⟨input, hs, hrest⟩
    exact Filter.next_at hchild.streams hs hrest
  · exact ⟨input, hchild.start, hrows⟩
  · rintro s rest ⟨_, hs, -⟩
    obtain ⟨houtcome, hstate⟩ := hchild.again s _ hs
    exact ⟨houtcome, input, hstate, hrows⟩

/-- The row that a projection writes for a row. -/
def Project.image (projection : Projection) (row : Row) : Except EvalError Row :=
  (projection.apply row.view).result

def Project.At (projection : Projection) (AtChild : child.State → List Row → Prop)
    (s : child.State) (rest : List Row) : Prop :=
  ∃ input, AtChild s input ∧ input.mapM (Project.image projection) = .ok rest

theorem Project.next_end (projection : Projection) (h : (child.next stopped s).outcome = .ok none) :
    next child projection stopped s =
      ⟨.ok none, (child.next stopped s).state, (child.next stopped s).events⟩ := by
  simp only [next, h]

theorem Project.next_row (h : (child.next stopped s).outcome = .ok (some row)) {out : Row}
    (himage : image projection row = .ok out) :
    (next child projection stopped s).outcome = .ok (some out) ∧
      (next child projection stopped s).state = (child.next stopped s).state := by
  have hout : (projection.apply row.view).outcome = .ok out := Traced.outcome_eq_ok.mpr himage
  simp only [next, h, hout, Except.map, and_self]

/-- A projection replays the images of the rows, if it fails on none. -/
theorem Operator.Replays.project {input rows : List Row} (hchild : child.Replays input AtChild)
    (hrows : input.mapM (Project.image projection) = .ok rows) :
    (child.project projection).Replays rows (Project.At projection AtChild) := by
  constructor
  · apply streams_of_next
    rintro s rest ⟨input, hs, hrest⟩
    obtain ⟨hnext, hstate⟩ := hchild.streams.next hs
    cases input with
    | nil =>
      obtain rfl := mapM_nil_eq_ok.mp hrest
      have hstep := Project.next_end projection hnext
      simp only [Operator.project, hstep]
      exact ⟨rfl, [], hstate, hrest⟩
    | cons row input =>
      obtain ⟨out, more, hout, hmore, rfl⟩ := mapM_cons_eq_ok.mp hrest
      obtain ⟨houtcome, hsame⟩ := Project.next_row hnext hout
      simp only [Operator.project, houtcome, hsame]
      exact ⟨rfl, input, hstate, hmore⟩
  · exact ⟨input, hchild.start, hrows⟩
  · rintro s rest ⟨_, hs, -⟩
    obtain ⟨houtcome, hstate⟩ := hchild.again s _ hs
    exact ⟨houtcome, input, hstate, hrows⟩

/-- As many of the rows of the input are still to come as are left of the count. -/
def Limit.At (count : Nat) (AtChild : child.State → List Row → Prop) (s : Limit.State child.State)
    (rest : List Row) : Prop :=
  ∃ input, AtChild s.input input ∧ rest = input.take (count - s.emitted)

/-- A limit replays the rows at the front. -/
theorem Operator.Replays.limit {rows : List Row} (hchild : child.Replays rows AtChild)
    (count : Nat) : (child.limit count).Replays (rows.take count) (Limit.At count AtChild) := by
  constructor
  · apply streams_of_next
    rintro s rest ⟨input, hs, rfl⟩
    by_cases hfull : count ≤ s.emitted
    · have hzero : count - s.emitted = 0 := by omega
      simp only [Operator.limit, Limit.next, hfull, hzero, if_true]
      exact ⟨rfl, input, hs, by simp [hzero]⟩
    · obtain ⟨hnext, hstate⟩ := hchild.streams.next hs
      simp only [Operator.limit, Limit.next, hfull, if_false, hnext]
      obtain ⟨left, hleft⟩ : ∃ left, count - s.emitted = left + 1 :=
        ⟨count - s.emitted - 1, by omega⟩
      cases input with
      | nil => exact ⟨by simp, [], hstate, by simp⟩
      | cons row input =>
        rw [hleft]
        refine ⟨rfl, input, hstate, ?_⟩
        have hless : count - (s.emitted + 1) = left := by omega
        simp [hless]
  · exact ⟨rows, hchild.start, rfl⟩
  · rintro s rest ⟨_, hs, -⟩
    obtain ⟨houtcome, hstate⟩ := hchild.again _ _ hs
    exact ⟨houtcome, rows, hstate, rfl⟩

end RowEngine
