import Mathlib.Data.List.Sort
import RowEngine.Operator.Sorting
import RowEngine.Proofs.Stream

/-!
# Sorts as streams

A sort answers from the rows of its input, put in order by inserting one after the other in front of
the rows that do not come before it. This is the stable order, and the faster way in which a sort
finds it comes to the same rows if its keys put the rows in line.
-/

namespace RowEngine

section

variable {α : Type} {le : α → α → Bool}

theorem orderedInsert_append {a : α} {front back : List α} (hfront : ∀ b ∈ front, le a b = false)
    (hback : ∀ b ∈ back, le a b = true) :
    (front ++ back).orderedInsert (le · ·) a = front ++ a :: back := by
  induction front with
  | nil =>
    cases back with
    | nil => rfl
    | cons b back => exact List.orderedInsert_cons_of_le _ back (hback b (by simp))
  | cons b front ih =>
    have hb : ¬ le a b = true := by simp [hfront b (by simp)]
    rw [List.cons_append, List.orderedInsert_of_not_le (le · ·) (front ++ back) hb,
      ih fun c hc => hfront c (by simp [hc])]
    rfl

/-- Sorting by merging and by inserting give one list, since both keep the order of rows that are
tied. -/
theorem mergeSort_eq_insertionSort (htrans : ∀ a b c, le a b → le b c → le a c)
    (htotal : ∀ a b, le a b || le b a) (as : List α) :
    as.mergeSort le = as.insertionSort (le · ·) := by
  induction as with
  | nil => simp
  | cons a as ih =>
    obtain ⟨front, back, hcons, hsplit, hfront⟩ := List.mergeSort_cons htrans htotal a as
    have hsorted := List.pairwise_mergeSort htrans htotal (a :: as)
    rw [hcons, List.pairwise_append, List.pairwise_cons] at hsorted
    obtain ⟨-, ⟨hback, -⟩, -⟩ := hsorted
    rw [List.insertionSort_cons, ← ih, hcons, hsplit]
    refine (orderedInsert_append ?_ hback).symm
    intro b hb
    simpa using hfront b hb

/-- A list is sorted in the same way as the list of its members. -/
theorem mergeSort_eq_map_attach (as : List α) (le : α → α → Bool) :
    as.mergeSort le = (as.attach.mergeSort fun a b => le a.1 b.1).map Subtype.val := by
  have hmap := List.map_mergeSort (r := fun a b => le a.1 b.1) (s := le) (f := Subtype.val)
    (l := as.attach) fun _ _ _ _ => rfl
  rw [hmap, List.attach_map_subtype_val]

/-- It is enough that the relation puts the members of the list in line. -/
theorem mergeSort_eq_insertionSort_of_mem {as : List α}
    (htrans : ∀ a ∈ as, ∀ b ∈ as, ∀ c ∈ as, le a b → le b c → le a c)
    (htotal : ∀ a ∈ as, ∀ b ∈ as, le a b || le b a) :
    as.mergeSort le = as.insertionSort (le · ·) := by
  have hinsert := List.map_insertionSort (fun a b : { a // a ∈ as } => le a.1 b.1) (le · ·)
    Subtype.val as.attach fun _ _ _ _ => Iff.rfl
  rw [List.attach_map_subtype_val] at hinsert
  rw [mergeSort_eq_map_attach, ← hinsert, mergeSort_eq_insertionSort]
  · intro a b c
    exact htrans a.1 a.2 b.1 b.2 c.1 c.2
  · intro a b
    exact htotal a.1 a.2 b.1 b.2

end

/-- A row may stand before another one. -/
def SortKey.before (keys : List SortKey) (a b : Row) : Bool :=
  compareRows keys a.view b.view != .gt

/-- Some keys put some rows in line, with ties: any two rows can be put in order, and the order is
transitive. -/
structure SortKey.Orders (keys : List SortKey) (rows : List Row) : Prop where
  total : ∀ a ∈ rows, ∀ b ∈ rows, before keys a b || before keys b a
  trans : ∀ a ∈ rows, ∀ b ∈ rows, ∀ c ∈ rows, before keys a b → before keys b c → before keys a c

theorem SortKey.Orders.subset {keys : List SortKey} {rows rows' : List Row}
    (h : SortKey.Orders keys rows) (hsub : rows' ⊆ rows) : SortKey.Orders keys rows' where
  total a ha b hb := h.total a (hsub ha) b (hsub hb)
  trans a ha b hb c hc := h.trans a (hsub ha) b (hsub hb) c (hsub hc)

/-- Rows in the order of some keys; rows that are tied stay in the order they have. -/
def SortKey.stableSort (keys : List SortKey) (rows : List Row) : List Row :=
  rows.insertionSort fun a b => before keys a b

theorem Sorting.sortRows_eq_stableSort {keys : List SortKey} {rows : List Row}
    (h : SortKey.Orders keys rows) : sortRows keys rows = SortKey.stableSort keys rows :=
  mergeSort_eq_insertionSort_of_mem h.trans h.total

namespace Sorting

variable {child : Operator} {AtChild : child.State → List Row → Prop} {keys : List SortKey}

/-- All rows of the input are still to come, or the rows behind the cursor in the sorted rows. -/
inductive At (keys : List SortKey) (input : List Row) (AtChild : child.State → List Row → Prop) :
    State child.State → List Row → Prop where
  | unsorted {s : child.State} (hs : AtChild s input) :
      At keys input AtChild ⟨s, .unsorted, false⟩ (sortRows keys input)
  | sorted {s : child.State} (cursor : Nat) :
      At keys input AtChild ⟨s, .sorted (sortRows keys input) cursor, false⟩
        ((sortRows keys input).drop cursor)

theorem emit_at (keys : List SortKey) {input : List Row} (s : child.State) (cursor : Nat) :
    (emit (sortRows keys input) cursor).1 = ((sortRows keys input).drop cursor).head? ∧
      At keys input AtChild ⟨s, (emit (sortRows keys input) cursor).2, false⟩
        ((sortRows keys input).drop cursor).tail := by
  rw [List.head?_drop, List.tail_drop]
  unfold emit
  cases hrow : (sortRows keys input)[cursor]? with
  | some row => exact ⟨rfl, .sorted (cursor + 1)⟩
  | none =>
    rw [drop_succ_of_end hrow]
    exact ⟨rfl, .sorted cursor⟩

end Sorting

/-- A sort hands out the sorted rows one by one. -/
theorem Operator.Streams.sort {child : Operator} {AtChild : child.State → List Row → Prop}
    {EndChild : child.State → Prop} (hchild : child.Streams AtChild EndChild) (keys : List SortKey)
    (input : List Row) :
    (child.sort keys).Streams (Sorting.At keys input AtChild)
      (Sorting.At keys input AtChild · []) := by
  apply streams_of_next
  intro s rest hs
  cases hs with
  | unsorted hs =>
    obtain ⟨hrows, -⟩ := hchild.collect hs
    simp only [Operator.sort, Sorting.next, hrows]
    obtain ⟨hrow, hstate⟩ := Sorting.emit_at keys (child.collect false _).state 0
    exact ⟨congrArg Except.ok hrow, hstate⟩
  | @sorted s cursor =>
    obtain ⟨hrow, hstate⟩ := Sorting.emit_at keys s cursor
    exact ⟨congrArg Except.ok hrow, hstate⟩

/-- Starting over only moves the cursor back, so the sorted rows are replayed. -/
theorem Operator.Replays.sort {child : Operator} {AtChild : child.State → List Row → Prop}
    {input : List Row} (hchild : child.Replays input AtChild) (keys : List SortKey) :
    (child.sort keys).Replays (Sorting.sortRows keys input) (Sorting.At keys input AtChild) := by
  constructor
  · exact hchild.streams.sort keys input
  · exact .unsorted hchild.start
  · intro s rest hs
    cases hs with
    | unsorted hs =>
      obtain ⟨houtcome, hstate⟩ := hchild.again _ _ hs
      exact ⟨houtcome, .unsorted hstate⟩
    | sorted cursor => exact ⟨rfl, .sorted 0⟩

end RowEngine
