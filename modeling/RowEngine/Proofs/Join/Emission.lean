import RowEngine.Proofs.Emission
import RowEngine.Proofs.Join.Answer

/-!
# What a left outer join hands out

The table of a join holds rows of the right input, and the left row that is being matched came from
the left input. So every row of a join is written for such a pair, or for a left row with nulls on
the right.
-/

namespace RowEngine

namespace Join

variable {left right : Operator} {plan : JoinPlan} {Left Right Q : Row → Prop}
  {InvLeft : left.State → Prop} {InvRight : right.State → Prop} {table : JoinTable}

/-- What a pair of rows is answered with: its own output row or that of the left row alone. -/
theorem output_or_padding_of_pair {row partner out : Row} {accepted : Bool}
    (h : (pair plan row partner).result = .ok (out, accepted)) :
    plan.output row partner = .ok out ∨ plan.padding row = .ok out := by
  have hpart {x : Evaluation Row} {admitted : Bool}
      (hx : (x.bind fun out => Traced.ok (out, admitted)).result = .ok (out, accepted)) :
      x.result = .ok out := by
    obtain ⟨written, hwritten, heq⟩ := bind_eq_ok.mp ((Traced.result_bind x _).symm.trans hx)
    rw [hwritten, (Prod.mk.inj (Except.ok.inj heq)).1]
  unfold pair at h
  cases hfilter : plan.filter <;>
    simp only [hfilter, Traced.bind_eq, Traced.ok_bind, Traced.result_bind, bind_eq_ok] at h
  · obtain ⟨matched, -, h⟩ := h
    split at h
    · exact .inl (hpart h)
    · exact .inr (hpart h)
  · obtain ⟨admitted, -, matched, -, h⟩ := h
    split at h
    · exact .inl (hpart h)
    · exact .inr (hpart h)

/-- All rows of a table have a property. -/
def TableOf (Right : Row → Prop) (table : JoinTable) : Prop :=
  ∀ b ∈ table.buckets, ∀ row ∈ b.rows, Right row

theorem TableOf.mem_bucket (h : TableOf Right table) {slot : Nat} {row : Row}
    (hrow : row ∈ table.bucket slot) : Right row := by
  unfold JoinTable.bucket at hrow
  split at hrow
  · rename_i b hb
    exact h b (List.mem_of_getElem? hb) row hrow
  · cases hrow

theorem tableOf_insertRow {key : List Value} {row : Row} {bs : List Bucket} (hrow : Right row)
    (h : ∀ b ∈ bs, ∀ r ∈ b.rows, Right r) : ∀ b ∈ insertRow key row bs, ∀ r ∈ b.rows, Right r := by
  induction bs with
  | nil => simpa [insertRow] using hrow
  | cons b rest ih =>
    obtain ⟨hb, hrest⟩ := List.forall_mem_cons.mp h
    unfold insertRow
    split
    · refine List.forall_mem_cons.mpr ⟨?_, hrest⟩
      simpa [or_imp, forall_and] using ⟨hb, hrow⟩
    · exact List.forall_mem_cons.mpr ⟨hb, ih hrest⟩

theorem tableOf_add {ids : List Nat} {b b' : Buildup} {row : Row} (hb : TableOf Right b.table)
    (hrow : Right row) (h : b.add ids row = .ok b') : TableOf Right b'.table := by
  unfold Buildup.add at h
  split at h
  · cases h
  · cases h
    split
    · exact hb
    · exact tableOf_insertRow hrow hb

/-- The table and the inputs are in order, and so is the left row that is being matched. -/
structure Holds (Left Right : Row → Prop) (InvLeft : left.State → Prop)
    (InvRight : right.State → Prop) (s : State left.State right.State) : Prop where
  left : InvLeft s.left
  right : InvRight s.right
  table : ∀ table, s.build.table = some table → TableOf Right table
  row : ∀ row slot index, s.phase = .matching row slot index → Left row

/-- What putting in a row of the input keeps holds of a loaded table. A failed attempt leaves things
as they were. -/
theorem load_keeps {P : JoinTable → Prop} (h : right.Emits Right InvRight) (stopped : Bool)
    {build : BuildSide} {s : right.State} (hs : InvRight s) (hempty : P .empty)
    (hadd : ∀ (b : Buildup) row b', P b.table → Right row →
      b.add build.keyColumns row = .ok b' → P b'.table)
    (hbuild : ∀ table, build.table = some table → P table) :
    InvRight (build.load right stopped s).state.2 ∧
      ∀ table, (build.load right stopped s).state.1.table = some table → P table := by
  have hstart : P Buildup.empty.table := hempty
  obtain ⟨hstate, hbuilt⟩ := h.fold stopped (f := Buildup.add build.keyColumns)
    (J := fun b => P b.table) hadd hstart hs
  unfold BuildSide.load
  dsimp only
  split
  · exact ⟨hstate, hbuild⟩
  · rename_i built hfold
    refine ⟨hstate, ?_⟩
    rintro _ ⟨⟩
    exact hbuilt built hfold

theorem load_emits (h : right.Emits Right InvRight) (stopped : Bool) {build : BuildSide}
    {s : right.State} (hs : InvRight s)
    (hbuild : ∀ table, build.table = some table → TableOf Right table) :
    InvRight (build.load right stopped s).state.2 ∧
      ∀ table, (build.load right stopped s).state.1.table = some table → TableOf Right table := by
  have hempty : TableOf Right .empty := by simp [TableOf, JoinTable.empty]
  exact load_keeps h stopped hs hempty (fun _ _ _ hb hrow hadd => tableOf_add hb hrow hadd) hbuild

section

variable (houtput : ∀ l r out, Left l → Right r → plan.output l r = .ok out → Q out)
  (hpadding : ∀ l out, Left l → plan.padding l = .ok out → Q out)

include houtput hpadding

/-- Joining a left row with one partner. -/
theorem probe_emits (table : JoinTable) {row partner : Row} (slot index : Nat) (hrow : Left row)
    (hpartner : Right partner) :
    (∀ left slot' index', (probe plan table row partner slot index).state =
        .matching left slot' index' → Left left) ∧
      ∀ out, (probe plan table row partner slot index).outcome = .ok (some out) → Q out := by
  unfold probe
  dsimp only
  split
  · simp
  · rename_i out accepted hpair
    constructor
    · intro left slot' index' h
      unfold phaseAfter at h
      split at h
      · cases h
        exact hrow
      · cases h
    · rintro _ ⟨⟩
      rcases output_or_padding_of_pair (Traced.outcome_eq_ok.mp hpair) with hout | hout
      · exact houtput row partner out hrow hpartner hout
      · exact hpadding row out hrow hout

omit houtput in
theorem pad_emits {row : Row} (hrow : Left row) :
    (∀ left slot index, (pad plan row).state = .matching left slot index → Left left) ∧
      ∀ out, (pad plan row).outcome = .ok (some out) → Q out := by
  unfold pad
  dsimp only
  split
  · simp
  · rename_i out hout
    refine ⟨by simp, ?_⟩
    rintro _ ⟨⟩
    exact hpadding row out hrow (Traced.outcome_eq_ok.mp hout)

/-- The induction is on the left rows that are gone through in one request. -/
theorem pullLeft_emits (h : left.Emits Left InvLeft) (htable : TableOf Right table) (stopped : Bool)
    {s : left.State} (hs : InvLeft s) :
    InvLeft (pullLeft plan table left stopped s).state.1 ∧
      (∀ row slot index, (pullLeft plan table left stopped s).state.2 = .matching row slot index →
        Left row) ∧
      ∀ out, (pullLeft plan table left stopped s).outcome = .ok (some out) → Q out := by
  have hnext {s : left.State} (hs : InvLeft s) := h.next stopped s hs
  fun_induction pullLeft plan table left stopped s with
  | case1 s => exact ⟨hnext hs, by simp, by simp⟩
  | case2 s => exact ⟨hnext hs, by simp, by simp⟩
  | case3 s => exact ⟨hnext hs, by simp, by simp⟩
  | case4 s _ row hrow => exact ⟨hnext hs, pad_emits hpadding (h.row stopped s row hs hrow)⟩
  | case5 s _ row hrow slot _ partner hpartner =>
    exact ⟨hnext hs, probe_emits houtput hpadding table slot 0 (h.row stopped s row hs hrow)
      (htable.mem_bucket (List.mem_of_getElem? hpartner))⟩
  | case6 s _ _ _ _ _ _ ih => exact ih (hnext hs)

theorem withTable_emits (h : left.Emits Left InvLeft) {s : State left.State right.State}
    (hs : Holds Left Right InvLeft InvRight s) (htable : s.build.table = some table)
    (stopped : Bool) :
    Holds Left Right InvLeft InvRight (withTable plan table left stopped s).state ∧
      ∀ out, (withTable plan table left stopped s).outcome = .ok (some out) → Q out := by
  have hrows := hs.table table htable
  obtain ⟨hinput, hphase, hout⟩ := pullLeft_emits houtput hpadding h hrows stopped hs.left
  obtain ⟨input, t, build, phase, closed⟩ := s
  cases phase with
  | finished => exact ⟨hs, by simp [withTable, advance]⟩
  | needLeft =>
    simp only [withTable, advance]
    exact ⟨⟨hinput, hs.right, hs.table, hphase⟩, hout⟩
  | matching row slot index =>
    simp only [withTable, advance]
    split
    · rename_i partner hpartner
      obtain ⟨hphase, hout⟩ := probe_emits houtput hpadding table slot index
        (hs.row row slot index rfl) (hrows.mem_bucket (List.mem_of_getElem? hpartner))
      exact ⟨⟨hs.left, hs.right, hs.table, hphase⟩, hout⟩
    · exact ⟨⟨hinput, hs.right, hs.table, hphase⟩, hout⟩

/-- The rows that end up in the table came from the right input. -/
theorem next_emits (hleft : left.Emits Left InvLeft) (hright : right.Emits Right InvRight)
    {s : State left.State right.State} (hs : Holds Left Right InvLeft InvRight s) (stopped : Bool) :
    Holds Left Right InvLeft InvRight (next plan left right stopped s).state ∧
      ∀ out, (next plan left right stopped s).outcome = .ok (some out) → Q out := by
  unfold next
  split
  · exact ⟨hs, by simp⟩
  split
  · rename_i table htable
    exact withTable_emits houtput hpadding hleft hs htable stopped
  · obtain ⟨hinput, hrows⟩ := load_emits hright stopped hs.right hs.table
    have hloaded : Holds Left Right InvLeft InvRight
        { s with
          build := (s.build.load right stopped s.right).state.1
          right := (s.build.load right stopped s.right).state.2 } :=
      ⟨hs.left, hinput, hrows, hs.row⟩
    dsimp only
    split
    · exact ⟨hloaded, by simp⟩
    · exact ⟨hloaded, by simp⟩
    · rename_i table _ htable
      exact withTable_emits houtput hpadding hleft hloaded htable stopped

end

end Join

/-- Rows of a join are written for pairs of rows of its inputs or for padded left rows. -/
theorem Operator.Emits.leftJoin {left right : Operator} {Left Right Q : Row → Prop}
    {InvLeft : left.State → Prop} {InvRight : right.State → Prop}
    (hleft : left.Emits Left InvLeft) (hright : right.Emits Right InvRight) {plan : JoinPlan}
    (houtput : ∀ l r out, Left l → Right r → plan.output l r = .ok out → Q out)
    (hpadding : ∀ l out, Left l → plan.padding l = .ok out → Q out) :
    (left.leftJoin right plan).Emits Q (Join.Holds Left Right InvLeft InvRight) := by
  constructor
  · exact ⟨hleft.start, hright.start, fun _ h => (by cases h), fun _ _ _ h => (by cases h)⟩
  · intro stopped s hs
    exact (Join.next_emits houtput hpadding hleft hright hs stopped).1
  · intro stopped s row hs
    exact (Join.next_emits houtput hpadding hleft hright hs stopped).2 row
  · intro s hs
    exact ⟨hleft.rescan s.left hs.left, hs.right, hs.table, fun _ _ _ h => (by cases h)⟩

end RowEngine
