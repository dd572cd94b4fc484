import RowEngine.Proofs.Operator.Stability
import RowEngine.Proofs.Operator.Streaming
import RowEngine.Proofs.Recorded

/-!
# Sorts under requests

A sort asks its input for rows at one time only, at the first request for a row: until then it
passes on that it is started over, and from then on it answers from the sorted rows. What it answers
depends on nothing but the number of rows asked for since the last start.
-/

namespace RowEngine

namespace Operator

def Recorded.pulls {σ : Type} (s : Recorded σ) : Nat := s.asked.count .next

def Recorded.rescans {σ : Type} (s : Recorded σ) : Nat := s.asked.count .rescan

def restarted (op : Operator) : Nat → op.State
  | 0 => op.start
  | n + 1 => (op.rescan (op.restarted n)).state

variable {op : Operator} {rows : List Row}

theorem restarted_recorded (op : Operator) (n : Nat) :
    op.recorded.restarted n = ⟨op.restarted n, List.replicate n .rescan⟩ := by
  induction n with
  | zero => rfl
  | succ n ih =>
    rw [restarted, ih, List.replicate_succ']
    rfl

/-- While rows are taken from an operator that remembers its commands, it gets one request for each
of them. -/
theorem fold_push_recorded {s : op.State} {taken : List Row}
    (h : (op.fold false push taken s).outcome = .ok rows) (asked : List Command) :
    (op.recorded.fold false push taken ⟨s, asked⟩).outcome = .ok rows ∧
      ∃ n, n + taken.length = rows.length + 1 ∧
        (op.recorded.fold false push taken ⟨s, asked⟩).state =
          ⟨(op.fold false push taken s).state, asked ++ List.replicate n .next⟩ := by
  fun_induction fold op false push taken s generalizing asked with
  | case1 => cases h
  | case2 taken s _ hend =>
    obtain rfl := Except.ok.inj h
    have hrecorded : (op.recorded.next false ⟨s, asked⟩).outcome = .ok none := hend
    rw [fold_end push taken hrecorded]
    exact ⟨rfl, 1, by omega, rfl⟩
  | case3 => cases h
  | case4 taken s _ row hrow taken' hpush ih =>
    obtain rfl := Except.ok.inj hpush
    have hrecorded : (op.recorded.next false ⟨s, asked⟩).outcome = .ok (some row) := hrow
    obtain ⟨houtcome, n, hn, hstate⟩ := ih h (asked ++ [.next])
    rw [fold_row hrecorded hpush]
    rw [List.length_cons] at hn
    rw [append_replicate_next] at hstate
    exact ⟨houtcome, n + 1, by omega, hstate⟩

/-- Draining an operator that remembers its commands gives the same rows, with one request for each
and one for the end. -/
theorem collect_recorded {s : op.State} (h : (op.collect false s).outcome = .ok rows)
    (asked : List Command) :
    (op.recorded.collect false ⟨s, asked⟩).outcome = .ok rows ∧
      (op.recorded.collect false ⟨s, asked⟩).state =
        ⟨(op.collect false s).state, asked ++ List.replicate (rows.length + 1) .next⟩ := by
  rw [collect_eq_fold] at h
  obtain ⟨taken, htaken, rfl⟩ := map_eq_ok.mp h
  obtain ⟨houtcome, n, hn, hstate⟩ := fold_push_recorded htaken asked
  rw [List.length_reverse, ← hn]
  exact ⟨congrArg (Except.map List.reverse) houtcome, hstate⟩

/-- The number of rows asked for since the last start, after one more request. -/
def Request.position (n : Nat) : Request → Nat
  | .next => n + 1
  | .rescan => 0

/-- The number of new starts in front of everything else. -/
def Request.restarts : List Request → Nat
  | .rescan :: requests => restarts requests + 1
  | _ => 0

theorem Request.position_of_not_mem {requests : List Request} (h : .next ∉ requests) :
    requests.foldl position 0 = 0 := by
  induction requests with
  | nil => rfl
  | cons request requests ih =>
    obtain ⟨hfirst, hrest⟩ := not_or.mp (mt List.mem_cons.mpr h)
    cases request with
    | next => exact absurd rfl hfirst
    | rescan => exact ih hrest

/-- An operator that can be started over at any time can be drained after any number of starts. -/
theorem Replays.collect_restarted {At : op.State → List Row → Prop} (h : op.Replays rows At)
    (n : Nat) : (op.collect false (op.restarted n)).outcome = .ok rows := by
  have hs : At (op.restarted n) rows := by
    induction n with
    | zero => exact h.start
    | succ n ih => exact (h.again _ _ ih).2
  exact (h.streams.collect hs).1

end Operator

namespace Sorting

open Operator

variable {child : Operator} {keys : List SortKey} {rows : List Row} {n : Nat}

/-- A row has been asked for: the input has been drained, and the cursor is at the number of rows
asked for since the last start, or at the end. -/
def served (child : Operator) (keys : List SortKey) (rows : List Row) (s : child.State) (n : Nat) :
    State child.State :=
  ⟨(child.collect false s).state, .sorted (sortRows keys rows) (min n rows.length), false⟩

/-- The cursor stops at the end of the rows. -/
theorem emit_sortRows (keys : List SortKey) (rows : List Row) (n : Nat) :
    emit (sortRows keys rows) (min n rows.length) =
      ((sortRows keys rows)[n]?, .sorted (sortRows keys rows) (min (n + 1) rows.length)) := by
  have hlength : (sortRows keys rows).length = rows.length := List.length_mergeSort rows
  unfold emit
  by_cases hn : n < rows.length
  · rw [Nat.min_eq_left (Nat.le_of_lt hn), Nat.min_eq_left hn,
      List.getElem?_eq_getElem (hlength ▸ hn)]
  · have hle : rows.length ≤ n := Nat.le_of_not_lt hn
    rw [Nat.min_eq_right hle, Nat.min_eq_right (Nat.le_succ_of_le hle),
      List.getElem?_eq_none (Nat.le_of_eq hlength),
      List.getElem?_eq_none (hlength ▸ hle)]

/-- One request of a drained sort. -/
theorem next_served (s : child.State) (n : Nat) :
    ((child.sort keys).next false (served child keys rows s n)).outcome =
        .ok (sortRows keys rows)[n]? ∧
      ((child.sort keys).next false (served child keys rows s n)).state =
        served child keys rows s (n + 1) := by
  simp only [Operator.sort, next, served, emit_sortRows]
  exact ⟨rfl, rfl⟩

/-- The first request for a row drains the input. -/
theorem next_unsorted {s : child.State} (hdrain : (child.collect false s).outcome = .ok rows) :
    ((child.sort keys).next false ⟨s, .unsorted, false⟩).outcome = .ok (sortRows keys rows)[0]? ∧
      ((child.sort keys).next false ⟨s, .unsorted, false⟩).state =
        served child keys rows s 1 := by
  have hemit := emit_sortRows keys rows 0
  rw [Nat.zero_min] at hemit
  simp only [Operator.sort, next, hdrain, hemit, served]
  exact ⟨rfl, rfl⟩

theorem next_unsorted_error {s : child.State} {e : Failure}
    (h : (child.collect false s).outcome = .error e) :
    (child.sort keys).next false ⟨s, .unsorted, false⟩ =
      ⟨.error e, ⟨(child.collect false s).state, .unsorted, false⟩,
        (child.collect false s).events⟩ := by
  simp only [Operator.sort, next, h]
  rfl

/-- A drained sort stays drained, whatever is asked of it. -/
theorem run_served (s : child.State) (n : Nat) (requests : List Request)
    (session : Session (child.sort keys)) (hs : session.state = served child keys rows s n) :
    (session.run requests).state =
      served child keys rows s (requests.foldl Request.position n) := by
  induction requests generalizing session n with
  | nil => exact hs
  | cons request requests ih =>
    refine ih _ (session.after request) ?_
    cases request with
    | next =>
      rw [Session.state_after_next, hs]
      exact (next_served s n).2
    | rescan =>
      rw [Session.state_after_rescan, hs]
      simp [served, Operator.sort, rescan, Request.position]

/-- Where a sort stands after some requests. -/
theorem run_unsorted (m : Nat) (requests : List Request) (session : Session (child.sort keys))
    (hs : session.state = ⟨child.restarted m, .unsorted, false⟩)
    (hdrain : (child.collect false (child.restarted (m + Request.restarts requests))).outcome =
      .ok rows) :
    (session.run requests).state =
      if .next ∈ requests then
        served child keys rows (child.restarted (m + Request.restarts requests))
          (requests.foldl Request.position 0)
      else ⟨child.restarted (m + Request.restarts requests), .unsorted, false⟩ := by
  induction requests generalizing session m with
  | nil => simpa [Session.run, Request.restarts] using hs
  | cons request requests ih =>
    cases request with
    | next =>
      have hafter : (session.after .next).state = served child keys rows (child.restarted m) 1 := by
        rw [Session.state_after_next, hs]
        exact (next_unsorted hdrain).2
      rw [if_pos (by simp)]
      exact run_served _ 1 requests _ hafter
    | rescan =>
      have hafter : (session.after .rescan).state =
          ⟨child.restarted (m + 1), .unsorted, false⟩ := by
        rw [Session.state_after_rescan, hs]
        rfl
      have hcount : m + Request.restarts (.rescan :: requests) =
          m + 1 + Request.restarts requests := by
        simp only [Request.restarts]
        omega
      rw [hcount] at hdrain ⊢
      have hmem : Request.next ∈ Request.rescan :: requests ↔ Request.next ∈ requests := by simp
      rw [if_congr hmem rfl rfl]
      exact ih (m + 1) (session.after .rescan) hafter hdrain

end Sorting

namespace Operator

open Sorting

variable {child : Operator} {keys : List SortKey} {rows : List Row}

/-- Before the first request for a row a sort only starts its input over; after it, only the cursor
moves. -/
theorem state_sort_run (requests : List Request)
    (hdrain : (child.collect false (child.restarted (Request.restarts requests))).outcome =
      .ok rows) :
    ((Session.start (child.sort keys)).run requests).state =
      if .next ∈ requests then
        served child keys rows (child.restarted (Request.restarts requests))
          (requests.foldl Request.position 0)
      else ⟨child.restarted (Request.restarts requests), .unsorted, false⟩ := by
  have hrun := run_unsorted 0 requests (Session.start (child.sort keys)) rfl
    (by rwa [Nat.zero_add])
  rwa [Nat.zero_add] at hrun

/-- The next row is the one at the number of rows asked for since the last start. -/
theorem next_sort_run (keys : List SortKey) (requests : List Request)
    (hdrain : (child.collect false (child.restarted (Request.restarts requests))).outcome =
      .ok rows) :
    ((child.sort keys).next false ((Session.start (child.sort keys)).run requests).state).outcome =
      .ok (sortRows keys rows)[requests.foldl Request.position 0]? := by
  rw [state_sort_run requests hdrain]
  split
  · exact (next_served _ _).1
  · rename_i hnone
    rw [Request.position_of_not_mem hnone]
    exact (next_unsorted hdrain).1

/-- The requests that the input of a sort gets: new starts before the first request for a row, one
request for each row and for the end at that time, and nothing afterwards. -/
theorem recorded_sort_run (keys : List SortKey) (requests : List Request)
    (hdrain : (child.collect false (child.restarted (Request.restarts requests))).outcome =
      .ok rows) :
    let input := ((Session.start (child.recorded.sort keys)).run requests).state.input
    input.pulls = (if .next ∈ requests then rows.length + 1 else 0) ∧
      input.rescans = Request.restarts requests := by
  obtain ⟨hrows, hstate⟩ :=
    collect_recorded hdrain (List.replicate (Request.restarts requests) .rescan)
  rw [← restarted_recorded] at hrows hstate
  rw [state_sort_run requests hrows]
  split
  · simp [served, hstate, Recorded.pulls, Recorded.rescans, List.count_replicate]
  · simp [restarted_recorded, Recorded.pulls, Recorded.rescans, List.count_replicate]

/-- Whatever has been asked of a sort before, it answers with the row at the number of rows asked
for since the last start, in the one stable sort of the rows of its input. It has asked its input
for all rows and the end just once, at the first request for a row, and for a new start only before.
-/
theorem sort_replays_stably (child : Operator) (keys : List SortKey) (requests : List Request)
    (hdrain : (child.collect false (child.restarted (Request.restarts requests))).outcome =
      .ok rows) (horders : SortKey.Orders keys rows) :
    ∃ sorted, SortKey.StablySorts keys rows sorted ∧
      (∀ other, SortKey.StablySorts keys rows other → other = sorted) ∧
      ((child.sort keys).next false
        ((Session.start (child.sort keys)).run requests).state).outcome =
          .ok sorted[requests.foldl Request.position 0]? ∧
      let input := ((Session.start (child.recorded.sort keys)).run requests).state.input
      input.pulls = (if .next ∈ requests then rows.length + 1 else 0) ∧
        input.rescans = Request.restarts requests := by
  have hsorted := SortKey.stablySorts_sortRows horders
  exact ⟨sortRows keys rows, hsorted, fun _ hother => hsorted.eq hother,
    next_sort_run keys requests hdrain, recorded_sort_run keys requests hdrain⟩

/-- Two rows that are tied, asked for again. -/
theorem sort_replays_stably_pairs :
    let a : Column := ⟨"a", .integer, false⟩
    let rows : List Row :=
      [[.integer 2, .integer 1], [.integer 1, .integer 2], [.integer 2, .integer 3]]
    let child := Operator.scan ⟨⟨[a, a]⟩, rows, by decide⟩
    let keys : List SortKey := [⟨0, true, false⟩]
    let requests : List Request := [.rescan, .next, .next, .rescan, .next]
    ((child.sort keys).next false ((Session.start (child.sort keys)).run requests).state).outcome =
        .ok (some [.integer 2, .integer 1]) ∧
      ((Session.start (child.recorded.sort keys)).run requests).state.input.pulls = 4 := by
  intro a rows child keys requests
  have horders : SortKey.Orders keys rows := by constructor <;> decide
  have hdrain := (Replays.scan ⟨⟨[a, a]⟩, rows, by decide⟩).collect_restarted 1
  obtain ⟨sorted, -, hunique, hnext, hpulls, -⟩ :=
    sort_replays_stably child keys requests hdrain horders
  have hstable : SortKey.StablySorts keys rows
      [[.integer 1, .integer 2], [.integer 2, .integer 1], [.integer 2, .integer 3]] := by
    constructor <;> decide
  rw [← hunique _ hstable] at hnext
  exact ⟨hnext, hpulls⟩

end Operator

end RowEngine
