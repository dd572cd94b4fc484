import RowEngine.Proofs.Operator.Sorting
import RowEngine.Proofs.Value.Order

/-!
# Stable sorts

A stable sort of some rows holds the same rows in order, and rows that are tied stand as they stood
before. There is exactly one such list if the keys put the rows in line, and sorting finds it.
-/

namespace RowEngine

section

variable {α : Type} {le : α → α → Bool} {as : List α}

/-- Members that may all stand before each other are not moved past each other. -/
theorem filter_mergeSort (htrans : ∀ a b c, le a b → le b c → le a c)
    (htotal : ∀ a b, le a b || le b a) {p : α → Bool}
    (hp : ∀ a ∈ as, ∀ b ∈ as, p a → p b → le a b) :
    (as.mergeSort le).filter p = as.filter p := by
  have hsorted : (as.filter p).Pairwise fun a b => le a b = true := by
    apply List.pairwise_of_forall_mem_list
    intro a ha b hb
    obtain ⟨ha, hpa⟩ := List.mem_filter.mp ha
    obtain ⟨hb, hpb⟩ := List.mem_filter.mp hb
    exact hp a ha b hb hpa hpb
  have hkept := List.sublist_mergeSort htrans htotal hsorted List.filter_sublist
  have hfiltered : (as.filter p).Sublist ((as.mergeSort le).filter p) := by
    simpa using hkept.filter p
  have hlength := ((List.mergeSort_perm as le).filter p).length_eq
  exact (hfiltered.eq_of_length hlength.symm).symm

variable (htrans : ∀ a ∈ as, ∀ b ∈ as, ∀ c ∈ as, le a b → le b c → le a c)
  (htotal : ∀ a ∈ as, ∀ b ∈ as, le a b || le b a)

include htrans htotal

theorem pairwise_mergeSort_of_mem : (as.mergeSort le).Pairwise fun a b => le a b = true := by
  rw [mergeSort_eq_map_attach, List.pairwise_map]
  apply List.pairwise_mergeSort
  · intro a b c
    exact htrans a.1 a.2 b.1 b.2 c.1 c.2
  · intro a b
    exact htotal a.1 a.2 b.1 b.2

/-- Items that pass a test and are pairwise in order are not moved past one another. -/
theorem filter_mergeSort_of_mem {p : α → Bool} (hp : ∀ a ∈ as, ∀ b ∈ as, p a → p b → le a b) :
    (as.mergeSort le).filter p = as.filter p := by
  have hmembers : (as.attach.mergeSort fun a b => le a.1 b.1).filter (fun a => p a.1) =
      as.attach.filter fun a => p a.1 := by
    apply filter_mergeSort
    · intro a b c
      exact htrans a.1 a.2 b.1 b.2 c.1 c.2
    · intro a b
      exact htotal a.1 a.2 b.1 b.2
    · intro a _ b _
      exact hp a.1 a.2 b.1 b.2
  calc (as.mergeSort le).filter p
      = ((as.attach.mergeSort fun a b => le a.1 b.1).map Subtype.val).filter p := by
        rw [mergeSort_eq_map_attach]
    _ = (as.attach.map Subtype.val).filter p := by
        rw [List.filter_map, List.filter_map]
        exact congrArg (List.map Subtype.val) hmembers
    _ = as.filter p := by rw [List.attach_map_subtype_val]

end

namespace SortKey

/-- No key tells two rows apart. -/
def ties (keys : List SortKey) (a b : Row) : Bool := compareRows keys a.view b.view == .eq

/-- The same rows in order, where rows that are tied stand as they stood before. -/
structure StablySorts (keys : List SortKey) (rows sorted : List Row) : Prop where
  perm : sorted.Perm rows
  ordered : sorted.Pairwise fun a b => compareRows keys a.view b.view ≠ .gt
  stable : ∀ a ∈ rows, sorted.filter (ties keys a) = rows.filter (ties keys a)

variable {keys : List SortKey} {rows sorted : List Row} {a b : Row}

theorem before_iff : before keys a b = true ↔ compareRows keys a.view b.view ≠ .gt := by
  simp [before]

theorem ties_self (keys : List SortKey) (a : Row) : ties keys a a = true := by
  simp [ties, compareRows_self]

theorem ties_iff : ties keys a b = true ↔ before keys a b = true ∧ before keys b a = true := by
  rw [before_iff, before_iff, ← compareRows_swap keys a.view b.view, ties]
  cases compareRows keys a.view b.view <;> decide

/-- Rows that are tied with one row are tied with each other. -/
theorem Orders.before_of_ties (h : Orders keys rows) {c : Row} (ha : a ∈ rows) (hb : b ∈ rows)
    (hc : c ∈ rows) (hab : ties keys a b = true) (hac : ties keys a c = true) :
    before keys b c = true :=
  h.trans b hb a ha c hc (ties_iff.mp hab).2 (ties_iff.mp hac).1

theorem stablySorts_sortRows (h : Orders keys rows) :
    StablySorts keys rows (Sorting.sortRows keys rows) where
  perm := List.mergeSort_perm rows _
  ordered := (pairwise_mergeSort_of_mem h.trans h.total).imp before_iff.mp
  stable _ ha := filter_mergeSort_of_mem h.trans h.total fun _ hb _ hc hab hac =>
    h.before_of_ties ha hb hc hab hac

/-- Two lists in order are equal if they hold the same rows and agree on the rows that are tied with
any one of them: their first rows may stand before each other, so they are tied. -/
theorem eq_of_ordered {as bs : List Row} (hperm : as.Perm bs)
    (has : as.Pairwise fun a b => compareRows keys a.view b.view ≠ .gt)
    (hbs : bs.Pairwise fun a b => compareRows keys a.view b.view ≠ .gt)
    (hties : ∀ a ∈ as, as.filter (ties keys a) = bs.filter (ties keys a)) : as = bs := by
  induction as generalizing bs with
  | nil => exact hperm.nil_eq
  | cons a as ih =>
    cases bs with
    | nil => exact absurd hperm.length_eq (by simp)
    | cons b bs =>
      obtain ⟨ha, htail⟩ := List.pairwise_cons.mp has
      obtain ⟨hb, htail'⟩ := List.pairwise_cons.mp hbs
      have hab : ties keys a b = true := by
        rcases List.mem_cons.mp (hperm.mem_iff.mp (List.mem_cons_self : a ∈ a :: as)) with
          rfl | hmem
        · exact ties_self keys a
        rcases List.mem_cons.mp (hperm.mem_iff.mpr (List.mem_cons_self : b ∈ b :: bs)) with
          rfl | hmem'
        · exact ties_self keys b
        exact ties_iff.mpr ⟨before_iff.mpr (ha b hmem'), before_iff.mpr (hb a hmem)⟩
      have hfirst := hties a (by simp)
      rw [List.filter_cons_of_pos (ties_self keys a), List.filter_cons_of_pos hab] at hfirst
      obtain ⟨rfl, -⟩ := List.cons.inj hfirst
      rw [ih (List.perm_cons a |>.mp hperm) htail htail']
      intro c hc
      have hrest := hties c (by simp [hc])
      rw [List.filter_cons, List.filter_cons] at hrest
      split at hrest
      · exact (List.cons.inj hrest).2
      · exact hrest

/-- There is one stable way of sorting. -/
theorem StablySorts.eq {other : List Row} (h : StablySorts keys rows sorted)
    (h' : StablySorts keys rows other) : other = sorted := by
  refine eq_of_ordered (h'.perm.trans h.perm.symm) h'.ordered h.ordered ?_
  intro a ha
  have hmem : a ∈ rows := h'.perm.mem_iff.mp ha
  rw [h'.stable a hmem, h.stable a hmem]

end SortKey

end RowEngine
