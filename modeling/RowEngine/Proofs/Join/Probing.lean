import RowEngine.Proofs.Join.Failing
import RowEngine.Proofs.Join.Partition
import RowEngine.Proofs.Join.Restart

/-!
# Where a join is while it goes through partners

Wherever a join is told to go and whatever fails on the way, a left row that is being matched stands
at a row of a bucket of its table. All rows of this bucket have the key of the left row, and there
is no null in it. The table never changes while a left row is matched, so this is kept.
-/

namespace RowEngine

open Operator

/-- Every row in a bucket has the key of the bucket in the key columns, and no null there. -/
def JoinTable.Keyed (ids : List Nat) (table : JoinTable) : Prop :=
  ∀ b ∈ table.buckets, ∀ row ∈ b.rows, row.Covers ids ∧ carries ids b.key row = true

theorem keyed_insertRow {ids : List Nat} {key : List Value} {row : Row} {bs : List Bucket}
    (hrow : row.Covers ids ∧ JoinTable.carries ids key row = true)
    (h : ∀ b ∈ bs, ∀ r ∈ b.rows, r.Covers ids ∧ JoinTable.carries ids b.key r = true) :
    ∀ b ∈ insertRow key row bs, ∀ r ∈ b.rows,
      r.Covers ids ∧ JoinTable.carries ids b.key r = true := by
  induction bs with
  | nil =>
    intro b hb r hr
    obtain rfl := List.mem_singleton.mp hb
    obtain rfl := List.mem_singleton.mp hr
    exact hrow
  | cons b rest ih =>
    obtain ⟨hb, hrest⟩ := List.forall_mem_cons.mp h
    unfold insertRow
    split
    · rename_i hkey
      refine List.forall_mem_cons.mpr ⟨fun r hr => ?_, hrest⟩
      rcases List.mem_append.mp hr with hr | hr
      · exact hb r hr
      · obtain rfl := List.mem_singleton.mp hr
        exact hkey ▸ hrow
    · exact List.forall_mem_cons.mpr ⟨hb, ih hrest⟩

theorem Buildup.add_keyed {ids : List Nat} {b b' : Buildup} {row : Row} (hb : b.table.Keyed ids)
    (h : b.add ids row = .ok b') : b'.table.Keyed ids := by
  obtain ⟨hcovers, rfl⟩ := add_eq_ok.mp h
  unfold put
  split
  · exact hb
  · rename_i hnull
    exact keyed_insertRow ⟨hcovers, by simp [JoinTable.carries, hnull]⟩ hb

namespace Join

variable {left right : Operator} {plan : JoinPlan} {table : JoinTable} {row partner : Row}
  {slot index : Nat} {stopped : Bool}

/-- A left row stands at a partner: the slot is one of the table and there is a row at the index.
The key of the left row holds no null, and it is the key of the slot and of all rows in it. -/
structure Probes (plan : JoinPlan) (table : JoinTable) (row : Row) (slot index : Nat) : Prop where
  slot_lt : slot < table.keyCount
  index_lt : index < (table.bucket slot).length
  key : ∃ key, keyOf row plan.leftKeys = .ok key ∧ hasNull key = false ∧
    table.keys[slot]? = some (canonKey key) ∧
    ∀ partner ∈ table.bucket slot, ∃ other, keyOf partner plan.rightKeys = .ok other ∧
      hasNull other = false ∧ sameKey key other = true

theorem Probes.at (h : Probes plan table row slot index) {index' : Nat}
    (hindex : index' < (table.bucket slot).length) : Probes plan table row slot index' :=
  ⟨h.slot_lt, hindex, h.key⟩

/-- A slot that was found for a left row has its key. -/
theorem probes_of_slot? (hkeyed : table.Keyed plan.rightKeys)
    (hslot : slot? plan table row = .ok (some slot)) (hindex : index < (table.bucket slot).length) :
    Probes plan table row slot index := by
  obtain ⟨key, hkey, hfind⟩ := map_eq_ok.mp hslot
  split at hfind
  · cases hfind
  · rename_i hnull
    obtain ⟨hlt, hcanon, -⟩ := List.findIdx?_eq_some_iff_getElem.mp hfind
    have hcanon : table.buckets[slot].key = canonKey key := by simpa using hcanon
    refine ⟨hlt, hindex, key, hkey, by simpa using hnull, ?_, fun partner hpartner => ?_⟩
    · rw [JoinTable.keys, List.getElem?_map, List.getElem?_eq_getElem hlt, Option.map_some, hcanon]
    · rw [JoinTable.bucket, List.getElem?_eq_getElem hlt] at hpartner
      obtain ⟨hcovers, hcarries⟩ := hkeyed _ (List.getElem_mem hlt) partner hpartner
      simp only [JoinTable.carries, Bool.and_eq_true, Bool.not_eq_true', decide_eq_true_eq,
        hcanon] at hcarries
      exact ⟨_, keyOf_eq_pick hcovers, hcarries.1, (sameKey_iff _ _).mpr hcarries.2.symm⟩

/-- A left row that is being matched stands at a partner. -/
def Phase.Probes (plan : JoinPlan) (table : JoinTable) (phase : Phase) : Prop :=
  ∀ row slot index, phase = .matching row slot index → Join.Probes plan table row slot index

theorem probes_finished : Phase.finished.Probes plan table := by
  rintro _ _ _ ⟨⟩

theorem probes_needLeft : Phase.needLeft.Probes plan table := by
  rintro _ _ _ ⟨⟩

theorem probe_probes (h : Probes plan table row slot index) :
    (probe plan table row partner slot index).state.Probes plan table := by
  unfold probe
  dsimp only
  split
  · exact probes_finished
  · unfold phaseAfter
    split
    · rename_i hmore
      simp only [Bool.and_eq_true, decide_eq_true_eq] at hmore
      rintro _ _ _ ⟨⟩
      exact h.at hmore.2
    · exact probes_needLeft

theorem pad_probes : (pad plan row).state.Probes plan table := by
  unfold pad
  dsimp only
  split
  · exact probes_finished
  · exact probes_needLeft

/-- The slot that is found for a left row belongs to its key. -/
theorem pullLeft_probes (hkeyed : table.Keyed plan.rightKeys) (i : left.State) :
    (pullLeft plan table left stopped i).state.2.Probes plan table := by
  fun_induction pullLeft plan table left stopped i with
  | case1 | case2 | case3 => exact probes_finished
  | case4 => exact pad_probes
  | case5 i step row hrow slot hslot partner hpartner =>
    have hindex := (List.getElem?_eq_some_iff.mp hpartner).1
    exact probe_probes (probes_of_slot? hkeyed hslot hindex)
  | case6 _ _ _ _ _ _ _ ih => exact ih

theorem advance_probes (hkeyed : table.Keyed plan.rightKeys) (i : left.State) {phase : Phase}
    (hphase : phase.Probes plan table) :
    (advance plan table left stopped i phase).state.2.Probes plan table := by
  cases phase with
  | finished => exact probes_finished
  | needLeft => exact pullLeft_probes hkeyed i
  | matching row slot index =>
    unfold advance
    dsimp only
    split
    · exact probe_probes (hphase row slot index rfl)
    · exact pullLeft_probes hkeyed i

/-- The table is made for the keys of the plan, and a left row that is being matched stands at a
partner in it. -/
structure Stands {σ τ : Type} (plan : JoinPlan) (s : State σ τ) : Prop where
  keys : s.build.keyColumns = plan.rightKeys
  keyed : ∀ table, s.build.table = some table → table.Keyed plan.rightKeys
  phase : ∀ row slot index, s.phase = .matching row slot index →
    ∃ table, s.build.table = some table ∧ Probes plan table row slot index

namespace Stands

variable {s : State left.State right.State}

/-- While there is no table, no left row is being matched. -/
theorem probes_of_none {σ τ : Type} {s : State σ τ} (h : Stands plan s)
    (hnone : s.build.table = none) (table : JoinTable) : s.phase.Probes plan table := by
  intro row slot index hphase
  obtain ⟨table', htable, -⟩ := h.phase row slot index hphase
  rw [hnone] at htable
  cases htable

theorem probes {σ τ : Type} {s : State σ τ} (h : Stands plan s)
    (htable : s.build.table = some table) : s.phase.Probes plan table := by
  intro row slot index hphase
  obtain ⟨table', htable', hprobes⟩ := h.phase row slot index hphase
  obtain rfl := Option.some.inj (htable.symm.trans htable')
  exact hprobes

theorem withTable (h : Stands plan s) (htable : s.build.table = some table) :
    Stands plan (withTable plan table left stopped s).state := by
  refine ⟨h.keys, h.keyed, fun row slot index hphase => ⟨table, htable, ?_⟩⟩
  exact advance_probes (h.keyed table htable) s.left (h.probes htable) row slot index hphase

/-- Building the table puts rows under their keys and matches none. -/
theorem loaded (h : Stands plan s) (hnone : s.build.table = none) (stopped : Bool) :
    Stands plan (loaded right stopped s) := by
  have hempty : JoinTable.empty.Keyed plan.rightKeys := by simp [JoinTable.Keyed, JoinTable.empty]
  have hadd (b : Buildup) (row : Row) (b' : Buildup) (hb : b.table.Keyed plan.rightKeys)
      (_ : True) (hok : b.add s.build.keyColumns row = .ok b') :
      b'.table.Keyed plan.rightKeys := Buildup.add_keyed hb (h.keys ▸ hok)
  have hkeyed := load_keeps right.emits_any stopped (s := s.right) trivial hempty hadd h.keyed
  refine ⟨?_, hkeyed.2, fun row slot index hphase => ?_⟩
  · rcases s.build.load_cases right stopped s.right with ⟨e, -, hbuild⟩ | ⟨table, -, hbuild⟩
    · exact (congrArg BuildSide.keyColumns hbuild).trans h.keys
    · exact (congrArg BuildSide.keyColumns hbuild).trans h.keys
  · obtain ⟨table, htable, -⟩ := h.phase row slot index hphase
    rw [hnone] at htable
    cases htable

theorem next (h : Stands plan s) (stopped : Bool) :
    Stands plan (next plan left right stopped s).state := by
  cases hidle : (stopped || s.closed || isFinished s.phase) with
  | true =>
    rw [next_idle hidle]
    exact h
  | false =>
    cases htable : s.build.table with
    | some table =>
      rw [next_ready hidle htable]
      exact h.withTable htable
    | none =>
      have hloaded := h.loaded htable stopped
      rcases s.build.load_cases right stopped s.right with ⟨e, hout, -⟩ | ⟨table, hout, hbuild⟩
      · rw [next_fails hidle htable hout]
        exact hloaded
      · have hthere := congrArg BuildSide.table hbuild
        rw [next_builds hidle htable hout hthere]
        exact hloaded.withTable hthere

theorem rescan (h : Stands plan s) : Stands plan (rescan left right s).state :=
  ⟨h.keys, h.keyed, nofun⟩

theorem close (h : Stands plan s) : Stands plan (close left right s).state := by
  have hreleased := s.build.table_release
  refine ⟨(keyColumns_close s).trans h.keys, ?_, ?_⟩
  all_goals
    unfold Join.close
    split
  · exact h.keyed
  · intro table htable
    rw [hreleased] at htable
    cases htable
  · exact h.phase
  · exact nofun

end Stands

theorem stands_observed (left right : Operator) (plan : JoinPlan) (commands : List Command) :
    Stands plan ((Task.start (left.leftJoin right plan)).run commands).state :=
  Task.run_keeps (fun stopped _ h => h.next stopped) (fun _ h => h.rescan) (fun _ h => h.close)
    (Task.start (left.leftJoin right plan)) ⟨rfl, nofun, nofun⟩ commands

end Join

end RowEngine
