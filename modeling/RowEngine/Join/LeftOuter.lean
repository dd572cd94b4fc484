import RowEngine.Join.Condition
import RowEngine.Join.Table

/-!
# Left outer join

At the first request the right input is drained into a table. Left rows are then taken one at a
time: a row without partners is padded with nulls, a row with partners is joined with them in their
order. The first partner that the filter does not accept ends the row, with one padded row in its
place.

Before anything that may fail, the join is set to be finished, and it stays so if it does fail.
Starting over begins with the first left row again and keeps the table.
-/

namespace RowEngine

namespace Join

inductive Phase where
  | needLeft
  /-- The next partner of the left row is the one at `index` in the bucket at `slot`. -/
  | matching (left : Row) (slot index : Nat)
  | finished

structure State (σ τ : Type) where
  left : σ
  right : τ
  build : BuildSide
  phase : Phase
  closed : Bool

/-- The slot that holds the partners of a left row, if there are any. -/
def slot? (plan : JoinPlan) (table : JoinTable) (left : Row) : Except EvalError (Option Nat) :=
  (keyOf left plan.leftKeys).map fun key => if hasNull key then none else table.find? key

/-- The output row of a left row without a partner. -/
def padded (plan : JoinPlan) (left : Row) : Evaluation Row :=
  plan.projection.apply (Frame.mk left (Row.nulls plan.rightWidth)).view

/-- The output row of a left row and a partner, and whether the partners after it are tried too. -/
def pair (plan : JoinPlan) (left right : Row) : Evaluation (Row × Bool) := do
  let frame := (Frame.mk left right).view
  let accepted ← match plan.filter with
    | some filter => filter.holds plan.input frame
    | none => .ok true
  let matched ← plan.qual.holds plan.input frame
  let out ← if accepted && matched then plan.projection.apply frame else padded plan left
  .ok (out, accepted)

/-- Goes on from one partner: to the next if there is one and the row is not ended, else to the next
left row. -/
def phaseAfter (left : Row) (slot index : Nat) (more : Bool) : Phase :=
  if more then .matching left slot (index + 1) else .needLeft

def probe (plan : JoinPlan) (table : JoinTable) (left right : Row) (slot index : Nat) :
    Step Phase (Option Row) :=
  let x := pair plan left right
  match x.outcome with
  | .error e => ⟨.error e, .finished, x.events⟩
  | .ok (out, accepted) =>
    let more := accepted && decide (index + 1 < (table.bucket slot).length)
    ⟨.ok (some out), phaseAfter left slot index more, x.events⟩

def pad (plan : JoinPlan) (left : Row) : Step Phase (Option Row) :=
  let x := padded plan left
  match x.outcome with
  | .error e => ⟨.error e, .finished, x.events⟩
  | .ok out => ⟨.ok (some out), .needLeft, x.events⟩

/-- Takes the next left row and answers with its first output row. -/
def pullLeft (plan : JoinPlan) (table : JoinTable) (left : Operator) (stopped : Bool)
    (s : left.State) : Step (left.State × Phase) (Option Row) :=
  let step := left.next stopped s
  match _ : step.outcome with
  | .error e => ⟨.error e, (step.state, .finished), step.events⟩
  | .ok none => ⟨.ok none, (step.state, .finished), step.events⟩
  | .ok (some row) =>
    match slot? plan table row with
    | .error e => ⟨.error (.evaluation e), (step.state, .finished), step.events⟩
    | .ok none => ((pad plan row).lift (step.state, ·)).after step.events
    | .ok (some slot) =>
      match (table.bucket slot)[0]? with
      | some right => ((probe plan table row right slot 0).lift (step.state, ·)).after step.events
      | none => (pullLeft plan table left stopped step.state).after step.events
termination_by left.remaining s
decreasing_by exact left.remaining_lt ‹_›

/-- The next output row, once the table is there. -/
def advance (plan : JoinPlan) (table : JoinTable) (left : Operator) (stopped : Bool)
    (s : left.State) : Phase → Step (left.State × Phase) (Option Row)
  | .finished => ⟨.ok none, (s, .finished), []⟩
  | .needLeft => pullLeft plan table left stopped s
  | .matching row slot index =>
    match (table.bucket slot)[index]? with
    | some right => (probe plan table row right slot index).lift (s, ·)
    | none => pullLeft plan table left stopped s

def withTable (plan : JoinPlan) (table : JoinTable) (left : Operator) {τ : Type} (stopped : Bool)
    (s : State left.State τ) : Step (State left.State τ) (Option Row) :=
  (advance plan table left stopped s.left s.phase).lift fun (input, phase) =>
    { s with left := input, phase }

def isFinished : Phase → Bool
  | .finished => true
  | _ => false

def next (plan : JoinPlan) (left right : Operator) (stopped : Bool)
    (s : State left.State right.State) : Step (State left.State right.State) (Option Row) :=
  if stopped || s.closed || isFinished s.phase then ⟨.ok none, s, []⟩
  else
    match s.build.table with
    | some table => withTable plan table left stopped s
    | none =>
      let step := s.build.load right stopped s.right
      let loaded := { s with build := step.state.1, right := step.state.2 }
      match step.outcome, step.state.1.table with
      | .error e, _ => ⟨.error e, loaded, step.events⟩
      | .ok _, none =>
        ⟨.error (.internal "join hash table missing after load"), loaded, step.events⟩
      | .ok _, some table => (withTable plan table left stopped loaded).after step.events

def rescan (left right : Operator) (s : State left.State right.State) :
    Step (State left.State right.State) Unit :=
  (left.rescan s.left).lift fun input => { s with left := input, phase := .needLeft }

def closeWarning (side : Side) : Except Failure Unit → List Event
  | .ok _ => []
  | .error e => [.log (.closeFailed side e)]

/-- Closes both inputs, whatever comes of the first, and lets the table go. The first failure is the
one that is reported. -/
def close (left right : Operator) (s : State left.State right.State) :
    Step (State left.State right.State) Unit :=
  if s.closed then ⟨.ok (), s, []⟩
  else
    let first := left.close s.left
    let second := right.close s.right
    let released := s.build.release
    ⟨first.outcome.bind fun _ => second.outcome,
      ⟨first.state, second.state, released.state, .finished, true⟩,
      first.events ++ second.events ++ closeWarning .left first.outcome ++
        closeWarning .right second.outcome ++ released.events⟩

/-- A bound for the output rows of one left row: all rows of the table, or all that can get into it.
-/
def fanOut (right : Operator) {σ : Type} (s : State σ right.State) : Nat :=
  max 1 (match s.build.table with
    | some table => table.rowTotal
    | none => right.remaining s.right)

/-- A bound for the output rows still to come of the current left row. -/
def pending (table : Option JoinTable) (bound : Nat) : Phase → Nat
  | .matching _ slot index =>
    match table with
    | some table => (table.bucket slot).length - index
    | none => bound
  | _ => 0

def remaining (left right : Operator) (s : State left.State right.State) : Nat :=
  left.remaining s.left * fanOut right s + pending s.build.table (fanOut right s) s.phase

/-- Trying a partner leaves it and those after it to come, the row handed out for it included. -/
theorem pending_probe (plan : JoinPlan) (table : JoinTable) (left right : Row) (slot index : Nat)
    (bound : Nat) (h : (table.bucket slot)[index]? = some right) :
    pending (some table) bound (probe plan table left right slot index).state +
      rowCount (probe plan table left right slot index).outcome ≤
        (table.bucket slot).length - index := by
  have hlt := (List.getElem?_eq_some_iff.mp h).1
  unfold probe
  dsimp only
  split
  · simp [pending]
  · rename_i out accepted _
    simp only [rowCount_some, phaseAfter]
    split
    · rename_i hmore
      simp only [Bool.and_eq_true, decide_eq_true_eq] at hmore
      simp only [pending]
      omega
    · simp only [pending]
      omega

theorem pending_pad (plan : JoinPlan) (left : Row) (table : Option JoinTable) (bound : Nat) :
    pending table bound (pad plan left).state + rowCount (pad plan left).outcome ≤ 1 := by
  unfold pad
  dsimp only
  split <;> simp [pending]

theorem mul_add_le_mul {a b n m : Nat} (hab : a < b) (hm : m ≤ n) : a * n + m ≤ b * n := by
  calc a * n + m ≤ a * n + n := Nat.add_le_add_left hm _
    _ = (a + 1) * n := by rw [Nat.add_mul, Nat.one_mul]
    _ ≤ b * n := Nat.mul_le_mul_right n hab

/-- A left row pays for all output rows that come of it, of which there are at most `bound`. -/
theorem remaining_pullLeft (plan : JoinPlan) (table : JoinTable) (left : Operator) (stopped : Bool)
    (s : left.State) (bound : Nat) (hpos : 1 ≤ bound) (hbound : table.rowTotal ≤ bound) :
    left.remaining (pullLeft plan table left stopped s).state.1 * bound +
      pending (some table) bound (pullLeft plan table left stopped s).state.2 +
      rowCount (pullLeft plan table left stopped s).outcome ≤ left.remaining s * bound := by
  fun_induction pullLeft plan table left stopped s with
  | case1 s => simpa [pending] using Nat.mul_le_mul_right bound (left.remaining_le stopped s)
  | case2 s => simpa [pending] using Nat.mul_le_mul_right bound (left.remaining_le stopped s)
  | case3 s => simpa [pending] using Nat.mul_le_mul_right bound (left.remaining_le stopped s)
  | case4 s step row h =>
    have hpad := pending_pad plan row (some table) bound
    have := mul_add_le_mul (left.remaining_lt h) (Nat.le_trans hpad hpos)
    simpa [Nat.add_assoc] using this
  | case5 s step row h slot _ right hright =>
    have hprobe := pending_probe plan table row right slot 0 bound hright
    have hlength := table.length_bucket_le slot
    have := mul_add_le_mul (left.remaining_lt h)
      (Nat.le_trans hprobe (Nat.le_trans (Nat.sub_le _ _) (Nat.le_trans hlength hbound)))
    simpa [Nat.add_assoc] using this
  | case6 s step row h _ _ _ ih =>
    exact Nat.le_trans ih (Nat.mul_le_mul_right bound (left.remaining_le stopped s))

/-- In every phase, a row that is handed out was still to come of the current left row or of a later
one. -/
theorem remaining_advance (plan : JoinPlan) (table : JoinTable) (left : Operator) (stopped : Bool)
    (s : left.State) (phase : Phase) (bound : Nat) (hpos : 1 ≤ bound)
    (hbound : table.rowTotal ≤ bound) :
    left.remaining (advance plan table left stopped s phase).state.1 * bound +
      pending (some table) bound (advance plan table left stopped s phase).state.2 +
      rowCount (advance plan table left stopped s phase).outcome ≤
        left.remaining s * bound + pending (some table) bound phase := by
  have hpull := remaining_pullLeft plan table left stopped s bound hpos hbound
  cases phase with
  | finished => simp [advance, pending]
  | needLeft => simpa [advance, pending] using hpull
  | matching row slot index =>
    unfold advance
    dsimp only
    split
    · rename_i right h
      have := pending_probe plan table row right slot index bound h
      simp only [Step.state_lift, Step.outcome_lift, pending] at this ⊢
      omega
    · exact Nat.le_trans hpull (Nat.le_add_right _ _)

theorem fanOut_pos (right : Operator) {σ : Type} (s : State σ right.State) : 1 ≤ fanOut right s :=
  Nat.le_max_left 1 _

theorem remaining_withTable (plan : JoinPlan) (table : JoinTable) (left right : Operator)
    (stopped : Bool) (s : State left.State right.State) (h : s.build.table = some table) :
    remaining left right (withTable plan table left stopped s).state +
      rowCount (withTable plan table left stopped s).outcome ≤ remaining left right s := by
  have hbound : table.rowTotal ≤ fanOut right s := by
    simp only [fanOut, h]
    exact Nat.le_max_right 1 _
  have := remaining_advance plan table left stopped s.left s.phase (fanOut right s)
    (fanOut_pos right s) hbound
  simpa [withTable, remaining, fanOut, h] using this

/-- A table can only lower the bound for the current left row. -/
theorem pending_le (table : JoinTable) (bound : Nat) (phase : Phase)
    (hbound : table.rowTotal ≤ bound) :
    pending (some table) bound phase ≤ pending none bound phase := by
  cases phase with
  | matching row slot index =>
    have := table.length_bucket_le slot
    simp only [pending]
    omega
  | _ => simp [pending]

theorem pending_none_mono {a b : Nat} (h : a ≤ b) (phase : Phase) :
    pending none a phase ≤ pending none b phase := by
  cases phase <;> simp [pending, h]

/-- Loading a table, well or not, gives nothing back. -/
theorem remaining_loaded (left right : Operator)
    (s : State left.State right.State) (hnone : s.build.table = none)
    (build : BuildSide) {input : right.State}
    (hinput : right.remaining input ≤ right.remaining s.right)
    (htable : ∀ table, build.table = some table → table.rowTotal ≤ right.remaining s.right) :
    remaining left right { s with build, right := input } ≤ remaining left right s := by
  have hfan : fanOut right { s with build, right := input } ≤ fanOut right s := by
    unfold fanOut
    simp only [hnone]
    cases h : build.table with
    | none => exact Nat.max_le.mpr ⟨Nat.le_max_left .., Nat.le_trans hinput (Nat.le_max_right ..)⟩
    | some table =>
      exact Nat.max_le.mpr ⟨Nat.le_max_left .., Nat.le_trans (htable table h) (Nat.le_max_right ..)⟩
  have hpending : pending build.table (fanOut right { s with build, right := input }) s.phase ≤
      pending none (fanOut right s) s.phase := by
    cases h : build.table with
    | none => exact pending_none_mono hfan s.phase
    | some table =>
      have hbound : table.rowTotal ≤ fanOut right s := by
        simp only [fanOut, hnone]
        exact Nat.le_trans (htable table h) (Nat.le_max_right 1 _)
      exact Nat.le_trans (by cases s.phase <;> simp [pending]) (pending_le table _ s.phase hbound)
  unfold remaining
  rw [hnone]
  exact Nat.add_le_add (Nat.mul_le_mul_left _ hfan) hpending

/-- A row that is handed out was still to come, also where the table is built first. -/
theorem next_remaining (plan : JoinPlan) (left right : Operator) (stopped : Bool)
    (s : State left.State right.State) :
    remaining left right (next plan left right stopped s).state +
      rowCount (next plan left right stopped s).outcome ≤ remaining left right s := by
  unfold next
  split
  · simp
  · split
    · rename_i table h
      exact remaining_withTable plan table left right stopped s h
    · rename_i hnone
      have hinput := s.build.remaining_load_le right stopped s.right
      have hloaded := remaining_loaded left right s hnone
        (s.build.load right stopped s.right).state.1 hinput
      dsimp only
      split
      · rename_i herror
        have hsame := BuildSide.load_error herror
        simpa using hloaded (by simp [hsame, hnone])
      · rename_i hnothing
        simpa using hloaded (by simp [hnothing])
      · rename_i table hok htable
        have hrows := s.build.rowTotal_load_le right stopped s.right hok htable
        have := remaining_withTable plan table left right stopped
          { s with
            build := (s.build.load right stopped s.right).state.1
            right := (s.build.load right stopped s.right).state.2 } htable
        refine Nat.le_trans this (hloaded ?_)
        intro t ht
        rw [htable] at ht
        obtain rfl := Option.some.inj ht
        exact hrows

end Join

namespace Operator

def leftJoin (left right : Operator) (plan : JoinPlan) : Operator where
  State := Join.State left.State right.State
  schema := plan.projection.output
  start := ⟨left.start, right.start, .ofKeys plan.rightKeys, .needLeft, false⟩
  next := Join.next plan left right
  rescan := Join.rescan left right
  close := Join.close left right
  stats s := (left.stats s.left).add (right.stats s.right)
  remaining := Join.remaining left right
  next_remaining := Join.next_remaining plan left right

end Operator

end RowEngine
