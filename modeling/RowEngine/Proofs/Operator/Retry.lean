import RowEngine.Proofs.Operator.Replay
import RowEngine.Proofs.Value.Conforming

/-!
# Sorts whose input fails

A request that fails leaves the input where it stands. If that happens while a sort drains its
input, the rows taken so far are gone, and the next request drains and sorts only what is left. Once
it has done so, starting the sort over replays these rows and does not bring the others back.
-/

namespace RowEngine

namespace Operator

/-- An operator that hands out `rows` in their order, `taken` of them since the last start. A
request may fail, and then the operator stays where it is. -/
structure Falters (op : Operator) (rows : List Row) (taken : op.State → Nat)
    (Inv : op.State → Prop) : Prop where
  start : Inv op.start
  taken_start : taken op.start = 0
  taken_le : ∀ s, Inv s → taken s ≤ rows.length
  next : ∀ s, Inv s → Inv (op.next false s).state
  row : ∀ s row, Inv s → (op.next false s).outcome = .ok row → row = rows[taken s]?
  taken_next : ∀ s, Inv s →
    taken (op.next false s).state = taken s + rowCount (op.next false s).outcome
  rescan : ∀ s, Inv s → Inv (op.rescan s).state
  again : ∀ s, Inv s → (op.rescan s).outcome = .ok () → taken (op.rescan s).state = 0

variable {op : Operator} {rows : List Row} {taken : op.State → Nat} {Inv : op.State → Prop}

namespace Falters

/-- A drain that fails leaves the input further on, and one that does not has taken all that was
left. -/
theorem fold_push (h : op.Falters rows taken Inv) (before : List Row) {s : op.State} (hs : Inv s) :
    Inv (op.fold false push before s).state ∧
      ∀ all, (op.fold false push before s).outcome = .ok all →
        all = (rows.drop (taken s)).reverse ++ before := by
  fun_induction fold op false push before s with
  | case1 before s => exact ⟨h.next s hs, by simp⟩
  | case2 before s step hout =>
    have hend := h.row s none hs hout
    refine ⟨h.next s hs, ?_⟩
    rintro all ⟨⟩
    rw [List.drop_eq_nil_of_le (List.getElem?_eq_none_iff.mp hend.symm)]
    rfl
  | case3 before s step row hout e hpush => cases hpush
  | case4 before s step row hout before' hpush ih =>
    obtain rfl := Except.ok.inj hpush
    obtain ⟨hlt, hget⟩ := List.getElem?_eq_some_iff.mp (h.row s (some row) hs hout).symm
    have htaken : taken step.state = taken s + 1 := by
      rw [h.taken_next s hs, show (op.next false s).outcome = .ok (some row) from hout]
      rfl
    obtain ⟨hstate, hall⟩ := ih (h.next s hs)
    refine ⟨hstate, fun all hout => (hall all hout).trans ?_⟩
    rw [List.drop_eq_getElem_cons hlt, hget, htaken]
    simp

/-- Draining, if it succeeds, hands out the rows that have not been taken. -/
theorem collect (h : op.Falters rows taken Inv) {s : op.State} (hs : Inv s) :
    Inv (op.collect false s).state ∧
      ∀ all, (op.collect false s).outcome = .ok all → all = rows.drop (taken s) := by
  obtain ⟨hstate, hall⟩ := h.fold_push [] hs
  rw [collect_eq_fold]
  refine ⟨hstate, fun all hout => ?_⟩
  obtain ⟨reversed, hreversed, rfl⟩ := map_eq_ok.mp hout
  rw [hall reversed hreversed]
  simp

end Falters

end Operator

namespace Script

/-- A script with one column of integers, of which one request fails. -/
def failingAt (n : Nat) (name : String) (numbers : List Int64) : Script where
  schema := (Relation.ofIntegers name numbers).schema
  rows := (Relation.ofIntegers name numbers).rows
  pullFault k := if k = n then some (.internal "request failed") else none
  rescanFault := none
  closeFault := none
  stats := .zero

variable {script : Script} {s : State}

theorem next_fault {e : Failure} (h : script.pullFault s.pulls = some e) :
    script.next s = ⟨.error e, { s with pulls := s.pulls + 1 }, []⟩ := by
  simp only [next, h]

theorem next_end (h : script.pullFault s.pulls = none) (hrow : script.rows[s.cursor]? = none) :
    script.next s = ⟨.ok none, { s with pulls := s.pulls + 1 }, []⟩ := by
  simp only [next, h, hrow]

theorem next_row {row : Row} (h : script.pullFault s.pulls = none)
    (hrow : script.rows[s.cursor]? = some row) :
    script.next s =
      ⟨.ok (some row), { s with pulls := s.pulls + 1, cursor := s.cursor + 1 }, []⟩ := by
  simp only [next, h, hrow]

/-- One request of a script that has not handed out more than its rows. -/
theorem next_within (script : Script) {s : State} (hs : s.cursor ≤ script.rows.length) :
    (script.next s).state.cursor ≤ script.rows.length ∧
    (∀ row, (script.next s).outcome = .ok row → row = script.rows[s.cursor]?) ∧
    (script.next s).state.cursor = s.cursor + rowCount (script.next s).outcome := by
  cases hfault : script.pullFault s.pulls with
  | some e =>
    rw [next_fault hfault]
    exact ⟨hs, nofun, rfl⟩
  | none =>
    cases hrow : script.rows[s.cursor]? with
    | none =>
      rw [next_end hfault hrow]
      refine ⟨hs, ?_, rfl⟩
      rintro row ⟨⟩
      rfl
    | some row =>
      have hlt := (List.getElem?_eq_some_iff.mp hrow).1
      rw [next_row hfault hrow]
      refine ⟨hlt, ?_, rfl⟩
      rintro row ⟨⟩
      rfl

/-- A failed pull of a script takes no row, so what has been taken is where its cursor stands. -/
theorem falters (script : Script) : (Operator.scripted script).Falters script.rows State.cursor
    (·.cursor ≤ script.rows.length) where
  start := Nat.zero_le _
  taken_start := rfl
  taken_le _ hs := hs
  next s hs := (script.next_within hs).1
  row s row hs hout := (script.next_within hs).2.1 row hout
  taken_next s hs := (script.next_within hs).2.2
  rescan s hs := by
    simp only [Operator.scripted, rescan]
    split
    · exact hs
    · exact Nat.zero_le _
  again s hs hout := by
    simp only [Operator.scripted, rescan] at hout ⊢
    split at hout
    · cases hout
    · simp_all

end Script

namespace Sorting

open Operator

variable {child : Operator} {keys : List SortKey} {rows : List Row} {taken : child.State → Nat}
  {Inv : child.State → Prop}

/-- The number of rows that a sort has lost after some requests: those that its input had handed out
before the first request for a row that was answered. -/
def lost (taken : child.State → Nat) (session : Session (child.sort keys)) : List Request → Nat
  | [] => 0
  | .rescan :: requests => lost taken (session.after .rescan) requests
  | .next :: requests =>
    match ((child.sort keys).next false session.state).outcome with
    | .ok _ => taken session.state.input
    | .error _ => lost taken (session.after .next) requests

/-- Where a sort stands that has lost the first `n` rows: it has not drained its input yet, and then
it has lost none, or it answers from the others. -/
inductive Stands (keys : List SortKey) (rows : List Row) (Inv : child.State → Prop) :
    Nat → State child.State → Prop where
  | unsorted {s : child.State} (hs : Inv s) : Stands keys rows Inv 0 ⟨s, .unsorted, false⟩
  | served {n : Nat} (hn : n ≤ rows.length) (s : child.State) (k : Nat) :
      Stands keys rows Inv n (served child keys (rows.drop n) s k)

/-- A failure leaves the sort as it was before its first request, but for where its input stands.
The first request that is answered settles what it has lost, since the input is not asked again
from there on. -/
theorem stands_run (h : child.Falters rows taken Inv) (session : Session (child.sort keys))
    {s : child.State} (hs : session.state = ⟨s, .unsorted, false⟩) (hinv : Inv s)
    (requests : List Request) :
    Stands keys rows Inv (lost taken session requests) (session.run requests).state := by
  induction requests generalizing session s with
  | nil =>
    rw [Session.run, List.foldl_nil, hs]
    exact .unsorted hinv
  | cons request requests ih =>
    cases request with
    | rescan =>
      refine ih (session.after .rescan) ?_ (h.rescan s hinv)
      rw [Session.state_after_rescan, hs]
      rfl
    | next =>
      obtain ⟨hstate, hall⟩ := h.collect hinv
      cases hdrain : (child.collect false s).outcome with
      | error e =>
        have hnext := @next_unsorted_error child keys s e hdrain
        rw [lost, hs, hnext]
        refine ih (session.after .next) ?_ hstate
        rw [Session.state_after_next, hs, hnext]
      | ok all =>
        obtain rfl := hall all hdrain
        obtain ⟨houtcome, hserved⟩ := @next_unsorted child keys _ s hdrain
        rw [lost, hs, houtcome]
        have hafter : (session.after .next).state =
            served child keys (rows.drop (taken s)) s 1 := by
          rw [Session.state_after_next, hs, hserved]
        have hrun := run_served s 1 requests _ hafter
        rw [show session.run (.next :: requests) = (session.after .next).run requests from rfl,
          hrun]
        exact .served (h.taken_le s hinv) s _

theorem Stands.le {n : Nat} {s : State child.State} (h : Stands keys rows Inv n s) :
    n ≤ rows.length := by
  cases h with
  | unsorted => exact Nat.zero_le _
  | served hn => exact hn

/-- A sort that has been started over hands out the rows that it has not lost, in order, if its
input can be drained where that is still to be done. -/
theorem collect_rescan (h : child.Falters rows taken Inv) {n : Nat} {s : State child.State}
    (hs : Stands keys rows Inv n s) (hrescan : (rescan child s).outcome = .ok ())
    (hquiet : (rescan child s).state.phase = .unsorted →
      ∃ all, (child.collect false (rescan child s).state.input).outcome = .ok all) :
    ((child.sort keys).collect false (rescan child s).state).outcome =
      .ok (sortRows keys (rows.drop n)) := by
  have hstreams := (streams_collect child).sort keys
  cases hs with
  | unsorted hinv =>
    obtain ⟨all, hall⟩ := hquiet rfl
    obtain rfl := (h.collect (h.rescan _ hinv)).2 all hall
    rw [h.again _ hinv hrescan] at hall
    exact ((hstreams _).collect (.unsorted hall)).1
  | served hn s k =>
    have hat : At keys (rows.drop n) (fun s all => (child.collect false s).outcome = .ok all)
        ⟨(child.collect false s).state, .sorted (sortRows keys (rows.drop n)) 0, false⟩
        (sortRows keys (rows.drop n)) := .sorted 0
    exact ((hstreams (rows.drop n)).collect hat).1

end Sorting

namespace Operator

open Sorting

variable {child : Operator} {keys : List SortKey} {rows : List Row} {taken : child.State → Nat}
  {Inv : child.State → Prop}

/-- A sort over an input that fails at times, started over after any requests: if its input can then
be drained where that is still to be done, it hands out the rows that it has not lost in their
stable order, and these are all rows just if it has lost none. -/
theorem sort_retries (h : child.Falters rows taken Inv) (horders : SortKey.Orders keys rows)
    (requests : List Request) :
    let sort := child.sort keys
    let restart := sort.rescan ((Session.start sort).run requests).state
    let n := lost taken (Session.start sort) requests
    restart.outcome = .ok () →
    (restart.state.phase = .unsorted →
      ∃ all, (child.collect false restart.state.input).outcome = .ok all) →
    ∃ sorted, (sort.collect false restart.state).outcome = .ok sorted ∧
      SortKey.StablySorts keys (rows.drop n) sorted ∧
      (SortKey.StablySorts keys rows sorted ↔ n = 0) := by
  intro sort restart n hrestart hquiet
  have hstands : Stands keys rows Inv n _ := stands_run h (Session.start sort) rfl h.start requests
  have hle := hstands.le
  have hsorted := SortKey.stablySorts_sortRows (horders.subset (List.drop_subset n rows))
  refine ⟨_, collect_rescan h hstands hrestart hquiet, hsorted, ?_⟩
  constructor
  · intro hall
    have hlength := hall.perm.symm.length_eq.trans hsorted.perm.length_eq
    rw [List.length_drop] at hlength
    omega
  · intro hnone
    rwa [hnone, List.drop_zero] at hsorted ⊢

/-- An input that fails after its first row, under a sort that is started over before it is asked
again: nothing is lost. -/
theorem sort_retries_integers :
    let script := Script.failingAt 1 "a" [2, 1]
    let keys : List SortKey := [⟨0, true, false⟩]
    let sort := (Operator.scripted script).sort keys
    let restart := sort.rescan ((Session.start sort).run [.next]).state
    lost Script.State.cursor (Session.start sort) [.next] = 0 ∧ restart.outcome = .ok () ∧
      ∃ sorted, (sort.collect false restart.state).outcome = .ok sorted ∧
        SortKey.StablySorts keys script.rows sorted := by
  intro script keys sort restart
  have horders : SortKey.Orders keys script.rows := by constructor <;> decide
  have hnone : lost Script.State.cursor (Session.start sort) [.next] = 0 := by decide +kernel
  have hrestart : restart.outcome = .ok () := by decide +kernel
  obtain ⟨sorted, hsorted, -, hall⟩ := sort_retries script.falters horders [.next] hrestart
    fun _ => ⟨[[.integer 2], [.integer 1]], by decide +kernel⟩
  exact ⟨hnone, hrestart, sorted, hsorted, hall.mpr hnone⟩

/-- The same sort, asked again before it is started over: the first row is gone. -/
theorem not_sort_retries_integers :
    let script := Script.failingAt 1 "a" [2, 1]
    let keys : List SortKey := [⟨0, true, false⟩]
    let sort := (Operator.scripted script).sort keys
    let restart := sort.rescan ((Session.start sort).run [.next, .next]).state
    SortKey.Orders keys script.rows ∧ (∀ k, 2 ≤ k → script.pullFault k = none) ∧
      restart.outcome = .ok () ∧
      (sort.collect false restart.state).outcome = .ok [[.integer 1]] ∧
      ¬ SortKey.StablySorts keys script.rows [[.integer 1]] := by
  intro script keys sort restart
  refine ⟨by constructor <;> decide, fun k hk => if_neg (by omega), ?_, ?_, ?_⟩
  · decide +kernel
  · decide +kernel
  · intro h
    exact absurd h.perm.length_eq (by decide)

end Operator

end RowEngine
