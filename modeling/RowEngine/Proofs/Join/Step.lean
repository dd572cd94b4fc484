import RowEngine.Join.LeftOuter
import RowEngine.Proofs.Recorded

/-!
# Single requests of a join

A request for a row finds the join idle, or with its table there, or it has to build the table first
and fails or succeeds. What follows of the inputs, of the table and of joins over inputs that know
more is read off these branches.
-/

namespace RowEngine

/-- An attempt to build the table fails and leaves the build side as it is, or it succeeds. -/
theorem BuildSide.load_cases (build : BuildSide) (input : Operator) (stopped : Bool)
    (s : input.State) :
    (∃ e, (build.load input stopped s).outcome = .error e ∧
      (build.load input stopped s).state.1 = build) ∨
    ∃ table, (build.load input stopped s).outcome = .ok () ∧
      (build.load input stopped s).state.1 =
        { build with table := some table, loads := build.loads + 1 } := by
  unfold load
  dsimp only
  split
  · exact .inl ⟨_, rfl, rfl⟩
  · exact .inr ⟨_, rfl, rfl⟩

namespace Join

variable {plan : JoinPlan} {table : JoinTable} {left right : Operator} {stopped : Bool}

section

variable {s : left.State} {row partner : Row}

theorem pullLeft_error {e : Failure} (h : (left.next stopped s).outcome = .error e) :
    pullLeft plan table left stopped s =
      ⟨.error e, ((left.next stopped s).state, .finished), (left.next stopped s).events⟩ := by
  rw [pullLeft]
  split <;> simp_all

theorem pullLeft_end (h : (left.next stopped s).outcome = .ok none) :
    pullLeft plan table left stopped s =
      ⟨.ok none, ((left.next stopped s).state, .finished), (left.next stopped s).events⟩ := by
  rw [pullLeft]
  split <;> simp_all

variable (h : (left.next stopped s).outcome = .ok (some row))

include h

theorem pullLeft_unreadable {e : EvalError} (hslot : slot? plan table row = .error e) :
    pullLeft plan table left stopped s =
      ⟨.error (.evaluation e), ((left.next stopped s).state, .finished),
        (left.next stopped s).events⟩ := by
  rw [pullLeft]
  split <;> simp_all

theorem pullLeft_alone (hslot : slot? plan table row = .ok none) :
    pullLeft plan table left stopped s =
      ((pad plan row).lift ((left.next stopped s).state, ·)).after
        (left.next stopped s).events := by
  rw [pullLeft]
  split <;> simp_all

theorem pullLeft_partner {slot : Nat} (hslot : slot? plan table row = .ok (some slot))
    (hpartner : (table.bucket slot)[0]? = some partner) :
    pullLeft plan table left stopped s =
      ((probe plan table row partner slot 0).lift ((left.next stopped s).state, ·)).after
        (left.next stopped s).events := by
  rw [pullLeft]
  split
  · simp_all
  · simp_all
  · rename_i row' h'
    obtain rfl : row = row' := by simpa [h] using h'
    simp only [hslot, hpartner]

/-- A left row whose slot holds no rows is passed over. -/
theorem pullLeft_gone {slot : Nat} (hslot : slot? plan table row = .ok (some slot))
    (hnone : (table.bucket slot)[0]? = none) :
    pullLeft plan table left stopped s =
      (pullLeft plan table left stopped (left.next stopped s).state).after
        (left.next stopped s).events := by
  rw [pullLeft]
  split
  · simp_all
  · simp_all
  · rename_i row' h'
    obtain rfl : row = row' := by simpa [h] using h'
    simp only [hslot, hnone]

end

variable {s : State left.State right.State}

theorem next_idle (hidle : (stopped || s.closed || isFinished s.phase) = true) :
    next plan left right stopped s = ⟨.ok none, s, []⟩ :=
  if_pos hidle

theorem next_ready (hbusy : (stopped || s.closed || isFinished s.phase) = false)
    (htable : s.build.table = some table) :
    next plan left right stopped s = withTable plan table left stopped s := by
  simp [next, hbusy, htable]

/-- The join after an attempt to build the table. -/
def loaded (right : Operator) (stopped : Bool) {σ : Type} (s : State σ right.State) :
    State σ right.State :=
  { s with
    build := (s.build.load right stopped s.right).state.1
    right := (s.build.load right stopped s.right).state.2 }

theorem next_fails (hbusy : (stopped || s.closed || isFinished s.phase) = false)
    (hnone : s.build.table = none) {e : Failure}
    (hload : (s.build.load right stopped s.right).outcome = .error e) :
    next plan left right stopped s =
      ⟨.error e, loaded right stopped s, (s.build.load right stopped s.right).events⟩ := by
  simp [next, hbusy, hnone, hload, loaded]

theorem next_builds (hbusy : (stopped || s.closed || isFinished s.phase) = false)
    (hnone : s.build.table = none) (hload : (s.build.load right stopped s.right).outcome = .ok ())
    (htable : (s.build.load right stopped s.right).state.1.table = some table) :
    next plan left right stopped s =
      (withTable plan table left stopped (loaded right stopped s)).after
        (s.build.load right stopped s.right).events := by
  simp [next, hbusy, hnone, hload, htable, loaded]

/-- A request leaves each side of a join as it is, or the left side as taking rows leaves it and the
right side as an attempt to build the table leaves it. Such an attempt is only made by a join that
has no table and was neither closed nor stopped. -/
theorem next_cases (left right : Operator) (plan : JoinPlan) (stopped : Bool)
    (s : State left.State right.State) :
    let t := (next plan left right stopped s).state
    t.closed = s.closed ∧
    (t.left = s.left ∨ ∃ table, t.left = (advance plan table left stopped s.left s.phase).state.1) ∧
    ((t.right = s.right ∧ t.build = s.build) ∨
      (stopped = false ∧ s.closed = false ∧ s.build.table = none ∧
        t.right = (s.build.load right stopped s.right).state.2 ∧
        t.build = (s.build.load right stopped s.right).state.1)) := by
  intro t
  cases hidle : (stopped || s.closed || isFinished s.phase) with
  | true =>
    have ht : t = s := congrArg Step.state (next_idle hidle)
    rw [ht]
    exact ⟨rfl, .inl rfl, .inl ⟨rfl, rfl⟩⟩
  | false =>
    cases htable : s.build.table with
    | some table =>
      have ht : t = _ := congrArg Step.state (next_ready hidle htable)
      rw [ht]
      exact ⟨rfl, .inr ⟨table, rfl⟩, .inl ⟨rfl, rfl⟩⟩
    | none =>
      have hopen : stopped = false ∧ s.closed = false := by simp_all
      rcases s.build.load_cases right stopped s.right with ⟨e, hout, -⟩ | ⟨table, hout, hbuild⟩
      · have ht : t = _ := congrArg Step.state (next_fails hidle htable hout)
        rw [ht]
        exact ⟨rfl, .inl rfl, .inr ⟨hopen.1, hopen.2, rfl, rfl, rfl⟩⟩
      · have hthere := congrArg BuildSide.table hbuild
        have ht : t = _ := congrArg Step.state (next_builds hidle htable hout hthere)
        rw [ht]
        exact ⟨rfl, .inr ⟨table, rfl⟩, .inr ⟨hopen.1, hopen.2, rfl, rfl, rfl⟩⟩

end Join

namespace Operator.Extends

variable {op base : Operator} {forget : op.State → base.State} {stopped : Bool} {s : op.State}

theorem load (h : op.Extends base forget) (build : BuildSide) (stopped : Bool) (s : op.State) :
    (build.load op stopped s).lift (fun (build, input) => (build, forget input)) =
      build.load base stopped (forget s) := by
  unfold BuildSide.load
  rw [← h.fold]
  dsimp only [Step.outcome_lift]
  split <;> rfl

/-- But for the rows without a bucket, one left row is asked for, and nothing else in the answer
depends on what the input remembers. -/
theorem pullLeft (h : op.Extends base forget) (plan : JoinPlan) (table : JoinTable) :
    (Join.pullLeft plan table op stopped s).lift (fun (input, phase) => (forget input, phase)) =
      Join.pullLeft plan table base stopped (forget s) := by
  fun_induction Join.pullLeft plan table op stopped s with
  | case6 s step row hout slot hslot hnone ih =>
    rw [Join.pullLeft_gone ((h.outcome_next stopped s).trans hout) hslot hnone, ← h.next,
      Step.state_lift, ← ih]
    rfl
  | _ =>
    rw [Join.pullLeft, ← h.next]
    dsimp only [Step.outcome_lift]
    split <;> simp_all +zetaDelta [Step.lift, Step.after]

theorem advance (h : op.Extends base forget) (plan : JoinPlan) (table : JoinTable)
    (phase : Join.Phase) :
    (Join.advance plan table op stopped s phase).lift
        (fun (input, phase) => (forget input, phase)) =
      Join.advance plan table base stopped (forget s) phase := by
  cases phase with
  | finished => rfl
  | needLeft => exact h.pullLeft plan table
  | matching row slot index =>
    unfold Join.advance
    dsimp only
    split
    · rfl
    · exact h.pullLeft plan table

end Operator.Extends

namespace Join

variable {l left r right : Operator} {forgetLeft : l.State → left.State}
  {forgetRight : r.State → right.State}

def State.map {σ σ' τ τ' : Type} (f : σ → σ') (g : τ → τ') (s : State σ τ) : State σ' τ' :=
  ⟨f s.left, g s.right, s.build, s.phase, s.closed⟩

theorem withTable_map (hleft : l.Extends left forgetLeft) (plan : JoinPlan) (table : JoinTable)
    (stopped : Bool) (s : State l.State r.State) :
    (withTable plan table l stopped s).lift (State.map forgetLeft forgetRight) =
      withTable plan table left stopped (s.map forgetLeft forgetRight) := by
  unfold withTable
  rw [State.map, ← hleft.advance]
  rfl

theorem loaded_map (hright : r.Extends right forgetRight) (stopped : Bool)
    (s : State l.State r.State) : (loaded r stopped s).map forgetLeft forgetRight =
      loaded right stopped (s.map forgetLeft forgetRight) := by
  simp only [loaded, State.map, ← hright.load]
  rfl

/-- The join asks both inputs for the same in the same order, whatever they remember. -/
theorem next_map (hleft : l.Extends left forgetLeft) (hright : r.Extends right forgetRight)
    (plan : JoinPlan) (stopped : Bool) (s : State l.State r.State) :
    (next plan l r stopped s).lift (State.map forgetLeft forgetRight) =
      next plan left right stopped (s.map forgetLeft forgetRight) := by
  cases hidle : (stopped || s.closed || isFinished s.phase) with
  | true =>
    rw [next_idle hidle, next_idle (s := s.map forgetLeft forgetRight) hidle]
    rfl
  | false =>
    cases htable : s.build.table with
    | some table =>
      rw [next_ready hidle htable, next_ready (s := s.map forgetLeft forgetRight) hidle htable]
      exact withTable_map hleft plan table stopped s
    | none =>
      have hload := hright.load s.build stopped s.right
      have hevents := congrArg Step.events hload
      rcases s.build.load_cases r stopped s.right with ⟨e, hout, -⟩ | ⟨table, hout, hbuild⟩
      · have hbase := (congrArg Step.outcome hload).symm.trans hout
        rw [next_fails hidle htable hout,
          next_fails (s := s.map forgetLeft forgetRight) hidle htable hbase, ← loaded_map hright]
        exact congrArg (Step.mk _ _) hevents
      · have hbase := (congrArg Step.outcome hload).symm.trans hout
        have hthere : (s.build.load r stopped s.right).state.1.table = some table := by rw [hbuild]
        have hbaseThere : (s.build.load right stopped (forgetRight s.right)).state.1.table =
            some table := by
          rw [← hload]
          exact hthere
        rw [next_builds hidle htable hout hthere,
          next_builds (s := s.map forgetLeft forgetRight) hidle htable hbase hbaseThere,
          ← loaded_map hright, ← withTable_map hleft]
        exact congrArg (fun events => Step.mk _ _ (events ++ _)) hevents

end Join

theorem Operator.Extends.leftJoin {l left r right : Operator} {forgetLeft : l.State → left.State}
    {forgetRight : r.State → right.State} (hleft : l.Extends left forgetLeft)
    (hright : r.Extends right forgetRight) (plan : JoinPlan) :
    (l.leftJoin r plan).Extends (left.leftJoin right plan)
      (Join.State.map forgetLeft forgetRight) where
  start := by
    simp only [Operator.leftJoin, Join.State.map, hleft.start, hright.start]
  next stopped s := Join.next_map hleft hright plan stopped s
  rescan s := by
    simp only [Operator.leftJoin, Join.rescan, Join.State.map, ← hleft.rescan]
    rfl
  close s := by
    simp only [Operator.leftJoin, Join.close, Join.State.map, ← hleft.close, ← hright.close]
    split <;> rfl

end RowEngine
