import RowEngine.Proofs.Operator.Replay
import RowEngine.Proofs.Row.Order
import RowEngine.Proofs.Value.Conforming

/-!
# Sorts of sorts

A stable sort keeps the order of the rows that it ties, so sorting by some keys what is sorted by
others comes to one sort by all of them, those of the later sort first.
-/

namespace RowEngine

/-- Whatever a row holds in the columns of a schema fits their types; it need not have them all. -/
def RowView.Typed (row : RowView) (schema : Schema) : Prop :=
  ∀ i c, schema.columns[i]? = some c → (row.cell i).Fits c.type

instance (row : RowView) (schema : Schema) : Decidable (row.Typed schema) :=
  decidable_of_iff (∀ i, ∀ h : i < schema.columns.length, (row.cell i).Fits schema.columns[i].type)
    ⟨fun h i _ hc => by
      obtain ⟨hi, rfl⟩ := List.getElem?_eq_some_iff.mp hc
      exact h i hi,
    fun h i hi => h i _ (List.getElem?_eq_getElem hi)⟩

/-- Values of one type are in line, so ties among them pass on. -/
theorem Value.tiesPass_of_fits {S : Set Value} {t : DataType} (h : ∀ v ∈ S, v.Fits t) :
    TiesPass S := by
  by_cases ht : t = .float
  · right
    intro n hn
    rcases h _ hn with hnull | htype
    · cases hnull
    · cases htype.trans ht
  · left
    intro v hv
    rcases h v hv with rfl | htype
    · decide
    · rwa [htype]

theorem Schema.resolve_lt {schema : Schema} {name : String} {i : Nat}
    (h : schema.resolve name = .ok i) : i < schema.size := by
  have hmem : i ∈ schema.positions name := by
    unfold resolve at h
    split at h <;> simp_all
  obtain ⟨⟨c, j⟩, hc, rfl⟩ := List.mem_map.mp hmem
  exact (List.mem_zipIdx' (List.mem_filter.mp hc).1).1

namespace SortKey

variable {schema : Schema} {defaultNullsFirst : Bool} {requests others : List Request}
  {keys : List SortKey} {rows mid sorted : List Row} {a b : Row}

theorem resolveAll_eq_ok (h : resolveAll schema defaultNullsFirst requests = .ok keys) :
    requests ≠ [] ∧ requests.mapM (resolve schema defaultNullsFirst) = .ok keys := by
  unfold resolveAll at h
  split at h
  · cases h
  · rename_i hsome
    exact ⟨by simpa using hsome, h⟩

theorem column_lt_of_resolveAll (h : resolveAll schema defaultNullsFirst requests = .ok keys) :
    ∀ key ∈ keys, key.column < schema.size := by
  intro key hkey
  obtain ⟨request, -, hrequest⟩ := mapM_mem (resolveAll_eq_ok h).2 hkey
  obtain ⟨i, hi, hreturn⟩ := bind_eq_ok.mp hrequest
  obtain rfl := Except.ok.inj hreturn
  exact Schema.resolve_lt hi

/-- Keys are looked up one by one. -/
theorem resolveAll_append {others : List SortKey} {more : List Request}
    (h : resolveAll schema defaultNullsFirst requests = .ok keys)
    (hmore : resolveAll schema defaultNullsFirst more = .ok others) :
    resolveAll schema defaultNullsFirst (requests ++ more) = .ok (keys ++ others) := by
  obtain ⟨hsome, hkeys⟩ := resolveAll_eq_ok h
  obtain ⟨-, hothers⟩ := resolveAll_eq_ok hmore
  rw [resolveAll, if_neg (by simp [hsome]), List.mapM_append, hkeys, hothers]
  rfl

theorem before_iff_isLE : SortKey.before keys a b = true ↔ (compareRows keys a.view b.view).isLE :=
  before_iff.trans Ordering.ne_gt_iff_isLE

/-- Where ties pass on, the keys put the rows in line. -/
theorem orders_of_tiesPass (h : TiesPass keys {v | ∃ row ∈ rows, row.view = v}) :
    Orders keys rows where
  total a _ b _ := by
    rw [Bool.or_eq_true, before_iff, before_iff, ← compareRows_swap keys a.view b.view]
    cases compareRows keys a.view b.view <;> decide
  trans a ha b hb c hc hab hbc := by
    rw [before_iff_isLE] at hab hbc ⊢
    exact compareRows_isLE_trans h ⟨a, ha, rfl⟩ ⟨b, hb, rfl⟩ ⟨c, hc, rfl⟩ hab hbc

/-- Rows that are typed are put in line by keys on their columns. -/
theorem orders_of_typed (hkeys : ∀ key ∈ keys, key.column < schema.size)
    (hrows : ∀ row ∈ rows, row.view.Typed schema) : Orders keys rows := by
  refine orders_of_tiesPass fun key hkey => ?_
  have hlt : key.column < schema.columns.length := hkeys key hkey
  apply Value.tiesPass_of_fits (t := schema.columns[key.column].type)
  rintro v ⟨_, ⟨row, hrow, rfl⟩, rfl⟩
  exact hrows row hrow _ _ (List.getElem?_eq_getElem hlt)

/-- Rows are tied by all keys just if they are tied by the ones and by the others. -/
theorem ties_append (keys others : List SortKey) (a : Row) :
    ties (keys ++ others) a = fun b => ties keys a b && ties others a b := by
  funext b
  rw [ties, ties, ties, compareRows_append]
  cases compareRows keys a.view b.view <;> rfl

/-- A pair of rows that the later sort ties stands as the earlier one has put it. -/
theorem StablySorts.append {others : List SortKey} (h : StablySorts keys mid sorted)
    (hmid : StablySorts others rows mid) : StablySorts (keys ++ others) rows sorted where
  perm := h.perm.trans hmid.perm
  ordered := by
    rw [List.pairwise_iff_forall_sublist]
    intro a b hab
    have hle : compareRows keys a.view b.view ≠ .gt :=
      List.pairwise_iff_forall_sublist.mp h.ordered hab
    rw [compareRows_append]
    cases hkeys : compareRows keys a.view b.view with
    | lt => simp
    | gt => exact absurd hkeys hle
    | eq =>
      have htie : ties keys a b = true := by simp [ties, hkeys]
      have hmem : a ∈ mid := h.perm.mem_iff.mp (hab.subset (by simp))
      have hkept : [a, b].Sublist mid := by
        have hfiltered := hab.filter (ties keys a)
        rw [h.stable a hmem, List.filter_cons_of_pos (ties_self keys a),
          List.filter_cons_of_pos htie] at hfiltered
        exact hfiltered.trans List.filter_sublist
      exact List.pairwise_iff_forall_sublist.mp hmid.ordered hkept
  stable a ha := by
    have hmem : a ∈ mid := hmid.perm.mem_iff.mpr ha
    calc sorted.filter (ties (keys ++ others) a)
        = (sorted.filter (ties keys a)).filter (ties others a) := by
          simp only [ties_append, List.filter_filter, Bool.and_comm]
      _ = (mid.filter (ties others a)).filter (ties keys a) := by
          rw [h.stable a hmem, List.filter_filter, List.filter_filter]
          simp only [Bool.and_comm]
      _ = rows.filter (ties (keys ++ others) a) := by
          rw [hmid.stable a ha, List.filter_filter, ties_append]

end SortKey

namespace Sorting

open SortKey

variable {keys others : List SortKey} {rows : List Row}

theorem sortRows_subset (keys : List SortKey) (rows : List Row) : sortRows keys rows ⊆ rows :=
  (List.mergeSort_perm rows _).subset

/-- What is sorted by some keys and then by others stands as one sort by all of them puts it. -/
theorem sortRows_sortRows (hkeys : Orders keys rows) (hothers : Orders others rows)
    (hall : Orders (keys ++ others) rows) :
    sortRows keys (sortRows others rows) = sortRows (keys ++ others) rows :=
  (stablySorts_sortRows hall).eq
    ((stablySorts_sortRows (hkeys.subset (sortRows_subset others rows))).append
      (stablySorts_sortRows hothers))

end Sorting

namespace Operator

open Sorting SortKey

variable {child : Operator}

/-- Draining a sort sorts what draining its input gives. -/
theorem collect_sort (child : Operator) (keys : List SortKey) (s : child.State) :
    ((child.sort keys).collect false ⟨s, .unsorted, false⟩).outcome =
      (child.collect false s).outcome.map (sortRows keys) := by
  cases hdrain : (child.collect false s).outcome with
  | error e => exact collect_error (congrArg Step.outcome (next_unsorted_error hdrain))
  | ok rows =>
    have hat : At keys rows (fun s rows => (child.collect false s).outcome = .ok rows)
        ⟨s, .unsorted, false⟩ (sortRows keys rows) := .unsorted hdrain
    exact (((streams_collect child).sort keys rows).collect hat).1

/-- A task that has been stopped gets nothing out of a sort. -/
theorem collect_sort_stopped (child : Operator) (keys : List SortKey)
    (s : Sorting.State child.State) : ((child.sort keys).collect true s).outcome = .ok [] :=
  collect_end (by simp [Operator.sort, Sorting.next])

variable {d : Bool} {requests₁ requests₂ : List SortKey.Request} {keys₁ keys₂ : List SortKey}

/-- A sort over a sort hands out the rows of one sort by the keys of both, those of the outer sort
first: these keys can be looked up together, draining ends in the same way whatever the input does,
and where the input is drained both give the stable sort of its rows by all keys. -/
theorem collect_sort_sort (child : Operator)
    (h₁ : resolveAll child.schema d requests₁ = .ok keys₁)
    (h₂ : resolveAll child.schema d requests₂ = .ok keys₂)
    (htyped : ∀ rows, (child.collect false child.start).outcome = .ok rows →
      ∀ row ∈ rows, row.view.Typed child.schema) :
    let twice := (child.sort keys₂).sort keys₁
    let once := child.sort (keys₁ ++ keys₂)
    resolveAll child.schema d (requests₁ ++ requests₂) = .ok (keys₁ ++ keys₂) ∧
      (∀ stopped, (twice.collect stopped twice.start).outcome =
        (once.collect stopped once.start).outcome) ∧
      ∀ rows, (child.collect false child.start).outcome = .ok rows →
        ∃ sorted, StablySorts (keys₁ ++ keys₂) rows sorted ∧
          (twice.collect false twice.start).outcome = .ok sorted ∧
          (once.collect false once.start).outcome = .ok sorted := by
  intro twice once
  have hlt₁ := column_lt_of_resolveAll h₁
  have hlt₂ := column_lt_of_resolveAll h₂
  have hall := resolveAll_append h₁ h₂
  have hlt := column_lt_of_resolveAll hall
  have hrows {rows : List Row} (h : (child.collect false child.start).outcome = .ok rows) :
      sortRows keys₁ (sortRows keys₂ rows) = sortRows (keys₁ ++ keys₂) rows :=
    sortRows_sortRows (orders_of_typed hlt₁ (htyped rows h)) (orders_of_typed hlt₂ (htyped rows h))
      (orders_of_typed hlt (htyped rows h))
  have htwice : (twice.collect false twice.start).outcome =
      ((child.collect false child.start).outcome.map (sortRows keys₂)).map (sortRows keys₁) := by
    rw [← collect_sort child keys₂ child.start]
    exact collect_sort (child.sort keys₂) keys₁ _
  have honce : (once.collect false once.start).outcome =
      (child.collect false child.start).outcome.map (sortRows (keys₁ ++ keys₂)) :=
    collect_sort child _ child.start
  refine ⟨hall, ?_, ?_⟩
  · intro stopped
    cases stopped with
    | true => exact (collect_sort_stopped _ _ _).trans (collect_sort_stopped _ _ _).symm
    | false =>
      rw [htwice, honce]
      cases hdrain : (child.collect false child.start).outcome with
      | error e => rfl
      | ok rows => exact congrArg Except.ok (hrows hdrain)
  · intro rows hdrain
    refine ⟨_, stablySorts_sortRows (orders_of_typed hlt (htyped rows hdrain)), ?_, ?_⟩
    · rw [htwice, hdrain, ← hrows hdrain]
      rfl
    · rw [honce, hdrain]
      rfl

/-- By the second column downwards with nulls first, and then by the first column. -/
theorem collect_sort_sort_pairs :
    let schema : Schema := ⟨[⟨"a", .integer, false⟩, ⟨"b", .text, true⟩]⟩
    let rows : List Row := [[.integer 2, .text "x"], [.integer 1, .text "x"], [.integer 3, .null],
      [.integer 2, .text "y"], [.integer 1, .null]]
    let child := Operator.scan ⟨schema, rows, by decide⟩
    let twice := (child.sort [⟨0, true, false⟩]).sort [⟨1, false, true⟩]
    resolveAll schema false [⟨"b", false, some true⟩] = .ok [⟨1, false, true⟩] ∧
      resolveAll schema false [⟨"a", true, none⟩] = .ok [⟨0, true, false⟩] ∧
      (∀ row ∈ rows, row.view.Typed schema) ∧
      (twice.collect false twice.start).outcome = .ok [[.integer 1, .null], [.integer 3, .null],
        [.integer 2, .text "y"], [.integer 1, .text "x"], [.integer 2, .text "x"]] := by
  intro schema rows child twice
  have h₁ : resolveAll schema false [⟨"b", false, some true⟩] = .ok [⟨1, false, true⟩] := by
    decide +kernel
  have h₂ : resolveAll schema false [⟨"a", true, none⟩] = .ok [⟨0, true, false⟩] := by
    decide +kernel
  have htyped : ∀ row ∈ rows, row.view.Typed schema := by decide
  have hdrain : (child.collect false child.start).outcome = .ok rows :=
    collect_scan ⟨schema, rows, by decide⟩
  obtain ⟨-, -, hsorted⟩ := collect_sort_sort child h₁ h₂ (by
    intro all hall
    obtain rfl := Except.ok.inj (hdrain.symm.trans hall)
    exact htyped)
  obtain ⟨sorted, hstable, htwice, -⟩ := hsorted rows hdrain
  refine ⟨h₁, h₂, htyped, ?_⟩
  rw [htwice]
  refine congrArg Except.ok (StablySorts.eq ?_ hstable)
  constructor <;> decide

end Operator

end RowEngine
