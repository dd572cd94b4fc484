import RowEngine.Proofs.Join.Emission
import RowEngine.Proofs.Join.Step
import RowEngine.Proofs.Operator.Failing

/-!
# What a left outer join fails with

Besides the failures of its inputs, a join has those of reading the keys of a row and those of its
filter, its quals and its output. A table that was loaded is there, so the join never fails for want
of one.
-/

namespace RowEngine

/-- What the parts of a join fail with on rows with properties. -/
structure JoinPlan.FailsAs (plan : JoinPlan) (Left Right : Row → Prop) (D : EvalError → Prop) :
    Prop where
  leftKey : ∀ l, Left l → FailsOnly D (keyOf l plan.leftKeys)
  rightKey : ∀ r, Right r → FailsOnly D (keyOf r plan.rightKeys)
  filter : ∀ l r, Left l → Right r → FailsOnly D (plan.admits l r)
  qual : ∀ l r, Left l → Right r →
    FailsOnly D (plan.qual.holds plan.input (Frame.mk l r).view).result
  output : ∀ l r, Left l → Right r → FailsOnly D (plan.output l r)
  padding : ∀ l, Left l → FailsOnly D (plan.padding l)

namespace Join

variable {left right : Operator} {plan : JoinPlan} {Left Right : Row → Prop} {E : Failure → Prop}
  {InvLeft : left.State → Prop} {InvRight : right.State → Prop} {table : JoinTable}
  {row partner : Row}

section

variable (hplan : plan.FailsAs Left Right fun e => E (.evaluation e))

include hplan

/-- A pair fails with what its filter, its quals or its targets fail with. -/
theorem failsOnly_pair (hrow : Left row) (hpartner : Right partner) :
    FailsOnly (fun e => E (.evaluation e)) (pair plan row partner).result := by
  have hqual := hplan.qual row partner hrow hpartner
  have hout (accepted matched : Bool) :
      FailsOnly (fun e => E (.evaluation e))
        (if accepted && matched then
          (plan.projection.apply (Frame.mk row partner).view).bind fun out =>
            Traced.ok (out, accepted)
          else (padded plan row).bind fun out => Traced.ok (out, accepted)).result := by
    split
    · exact .traced_bind (hplan.output row partner hrow hpartner) fun _ _ => .ok _
    · exact .traced_bind (hplan.padding row hrow) fun _ _ => .ok _
  have hfilter := hplan.filter row partner hrow hpartner
  unfold JoinPlan.admits at hfilter
  unfold pair
  dsimp only [Traced.bind_eq]
  split
  · rename_i filter hsome
    rw [hsome] at hfilter
    exact .traced_bind hfilter fun accepted _ => .traced_bind hqual fun matched _ =>
      hout accepted matched
  · exact .traced_bind (.ok true) fun accepted _ => .traced_bind hqual fun matched _ =>
      hout accepted matched

theorem failsOnly_probe (table : JoinTable) (slot index : Nat) (hrow : Left row)
    (hpartner : Right partner) :
    FailsOnly E (probe plan table row partner slot index).outcome := by
  have hpair := Traced.failsOnly_outcome (failsOnly_pair hplan hrow hpartner)
  unfold probe
  dsimp only
  split
  · rename_i e he
    exact .error (hpair e he)
  · exact .ok _

theorem failsOnly_pad (hrow : Left row) : FailsOnly E (pad plan row).outcome := by
  have hpadded : FailsOnly E (padded plan row).outcome :=
    Traced.failsOnly_outcome (hplan.padding row hrow)
  unfold pad
  dsimp only
  split
  · rename_i e he
    exact .error (hpadded e he)
  · exact .ok _

theorem failsOnly_slot? (table : JoinTable) (hrow : Left row) :
    FailsOnly (fun e => E (.evaluation e)) (slot? plan table row) :=
  (hplan.leftKey row hrow).map _

/-- The induction is on the left rows that are gone through in one request. -/
theorem failsOnly_pullLeft (h : left.Serves Left E InvLeft) (htable : TableOf Right table)
    (stopped : Bool) {s : left.State} (hs : InvLeft s) :
    FailsOnly E (pullLeft plan table left stopped s).outcome := by
  fun_induction pullLeft plan table left stopped s with
  | case1 s step e hout => exact .error (h.fails stopped s hs e hout)
  | case2 s => exact .ok none
  | case3 s step row hrow e he =>
    exact .error (failsOnly_slot? hplan table (h.row stopped s row hs hrow) e he)
  | case4 s step row hrow => exact failsOnly_pad hplan (h.row stopped s row hs hrow)
  | case5 s step row hrow slot hslot partner hpartner =>
    exact failsOnly_probe hplan table slot 0 (h.row stopped s row hs hrow)
      (htable.mem_bucket (List.mem_of_getElem? hpartner))
  | case6 s step row hrow slot hslot hnone ih => exact ih (h.next stopped s hs)

theorem failsOnly_withTable (h : left.Serves Left E InvLeft) {s : State left.State right.State}
    (hs : Holds Left Right InvLeft InvRight s) (htable : s.build.table = some table)
    (stopped : Bool) : FailsOnly E (withTable plan table left stopped s).outcome := by
  have hrows := hs.table table htable
  have hpull := failsOnly_pullLeft hplan h hrows stopped hs.left
  obtain ⟨input, t, build, phase, closed⟩ := s
  cases phase with
  | finished => exact .ok none
  | needLeft => exact hpull
  | matching row slot index =>
    simp only [withTable, advance]
    split
    · rename_i partner hpartner
      exact failsOnly_probe hplan table slot index (hs.row row slot index rfl)
        (hrows.mem_bucket (List.mem_of_getElem? hpartner))
    · exact hpull

/-- A load fails only if the right input does, since every row it reads has the key columns. -/
theorem failsOnly_load (h : right.Serves Right E InvRight) (stopped : Bool) {build : BuildSide}
    (hkeys : build.keyColumns = plan.rightKeys) {s : right.State} (hs : InvRight s) :
    FailsOnly E (build.load right stopped s).outcome := by
  have hadd (b : Buildup) (row : Row) (hrow : Right row) :
      FailsOnly E (b.add build.keyColumns row) := by
    rw [hkeys]
    unfold Buildup.add
    split
    · rename_i e he
      exact .error (hplan.rightKey row hrow e he)
    · exact .ok _
  have hfold := h.failsOnly_fold stopped hadd Buildup.empty hs
  unfold BuildSide.load
  dsimp only
  split
  · rename_i e he
    exact .error (hfold e he)
  · exact .ok ()

end

/-- The join is in order, and its table is made for its keys. -/
structure Ready (plan : JoinPlan) (Left Right : Row → Prop) (InvLeft : left.State → Prop)
    (InvRight : right.State → Prop) (s : State left.State right.State) : Prop
    extends Holds Left Right InvLeft InvRight s where
  keys : s.build.keyColumns = plan.rightKeys

/-- The cases are those of a request: the join is idle, it has its table, or it builds it first. -/
theorem failsOnly_next (hplan : plan.FailsAs Left Right fun e => E (.evaluation e))
    (hleft : left.Serves Left E InvLeft) (hright : right.Serves Right E InvRight)
    {s : State left.State right.State} (hs : Ready plan Left Right InvLeft InvRight s)
    (stopped : Bool) : FailsOnly E (next plan left right stopped s).outcome := by
  cases hidle : (stopped || s.closed || isFinished s.phase) with
  | true =>
    rw [next_idle hidle]
    exact .ok none
  | false =>
    cases htable : s.build.table with
    | some table =>
      rw [next_ready hidle htable]
      exact failsOnly_withTable hplan hleft hs.toHolds htable stopped
    | none =>
      have hload := failsOnly_load hplan hright stopped hs.keys hs.right
      rcases s.build.load_cases right stopped s.right with ⟨e, hout, -⟩ | ⟨table, hout, hbuild⟩
      · rw [next_fails hidle htable hout]
        exact .error (hload e hout)
      · have hthere := congrArg BuildSide.table hbuild
        rw [next_builds hidle htable hout hthere]
        obtain ⟨hinput, hrows⟩ := load_emits hright.toEmits stopped hs.right hs.table
        have hloaded : Holds Left Right InvLeft InvRight (loaded right stopped s) :=
          ⟨hs.left, hinput, hrows, hs.row⟩
        exact failsOnly_withTable hplan hleft hloaded hthere stopped

/-- Whatever becomes of its table, a join makes it for the same keys. -/
theorem keyColumns_next (left right : Operator) (plan : JoinPlan) (stopped : Bool)
    (s : State left.State right.State) :
    (next plan left right stopped s).state.build.keyColumns = s.build.keyColumns := by
  obtain ⟨-, -, ⟨-, hbuild⟩ | ⟨-, -, -, -, hbuild⟩⟩ := next_cases left right plan stopped s
  · rw [hbuild]
  · rw [hbuild]
    rcases s.build.load_cases right stopped s.right with ⟨e, -, hload⟩ | ⟨table, -, hload⟩ <;>
      rw [hload]

theorem Holds.close (hleft : left.Serves Left E InvLeft) (hright : right.Serves Right E InvRight)
    {s : State left.State right.State} (hs : Holds Left Right InvLeft InvRight s) :
    Holds Left Right InvLeft InvRight (close left right s).state := by
  unfold Join.close
  split
  · exact hs
  · refine ⟨hleft.close s.left hs.left, hright.close s.right hs.right, ?_, nofun⟩
    unfold BuildSide.release
    split
    · exact nofun
    · exact hs.table

theorem keyColumns_close (s : State left.State right.State) :
    (close left right s).state.build.keyColumns = s.build.keyColumns := by
  unfold close
  split
  · rfl
  · unfold BuildSide.release
    split <;> rfl

end Join

/-- A join fails as its inputs do, or as its parts do on the rows of its inputs. -/
theorem Operator.Serves.leftJoin {left right : Operator} {Left Right Q : Row → Prop}
    {E : Failure → Prop} {InvLeft : left.State → Prop} {InvRight : right.State → Prop}
    (hleft : left.Serves Left E InvLeft) (hright : right.Serves Right E InvRight) {plan : JoinPlan}
    (hplan : plan.FailsAs Left Right fun e => E (.evaluation e))
    (houtput : ∀ l r out, Left l → Right r → plan.output l r = .ok out → Q out)
    (hpadding : ∀ l out, Left l → plan.padding l = .ok out → Q out) :
    (left.leftJoin right plan).Serves Q E (Join.Ready plan Left Right InvLeft InvRight) := by
  have hemits := hleft.toEmits.leftJoin hright.toEmits houtput hpadding
  constructor
  case toEmits =>
    refine ⟨⟨hemits.start, rfl⟩, ?_, ?_, fun s hs => ⟨hemits.rescan s hs.toHolds, hs.keys⟩⟩
    · intro stopped s hs
      exact ⟨hemits.next stopped s hs.toHolds,
        (Join.keyColumns_next left right plan stopped s).trans hs.keys⟩
    · exact fun stopped s row hs => hemits.row stopped s row hs.toHolds
  case close =>
    exact fun s hs => ⟨hs.toHolds.close hleft hright, (Join.keyColumns_close s).trans hs.keys⟩
  case fails => exact fun stopped s hs => Join.failsOnly_next hplan hleft hright hs stopped

end RowEngine
