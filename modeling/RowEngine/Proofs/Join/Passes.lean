import RowEngine.Proofs.Join.Probing
import RowEngine.Proofs.Join.Resources

/-!
# How a join looks for its next row

A join looks for its next row in passes. A pass at a partner answers. A pass that has to take a left
row answers too, or it finds partners for the row and leaves them to the next pass. So two passes
are enough if there is a row in every bucket of the table. They take one left row at most, and once
one is taken, the join answers with a row or fails.

Along with a row, a pass tells for which left row it was written and how.
-/

namespace RowEngine

namespace Join

open Operator

/-- How an output row was written: for a pair of rows, or for a left row with nulls. -/
inductive Kind where
  | joined
  | padded
  deriving DecidableEq, Repr

structure Emission where
  left : Row
  kind : Kind
  row : Row

def bare {σ : Type} (step : Step σ (Option Emission)) : Step σ (Option Row) :=
  ⟨step.outcome.map (Option.map Emission.row), step.state, step.events⟩

/-- What becomes of a pair, and whether the partners after it are tried too. -/
def verdict (plan : JoinPlan) (left right : Row) : Evaluation (Kind × Bool) := do
  let frame := (Frame.mk left right).view
  let accepted ← match plan.filter with
    | some filter => filter.holds plan.input frame
    | none => .ok true
  let matched ← plan.qual.holds plan.input frame
  .ok (if accepted && matched then .joined else .padded, accepted)

def write (plan : JoinPlan) (left right : Row) : Kind → Evaluation Row
  | .joined => plan.projection.apply (Frame.mk left right).view
  | .padded => padded plan left

def emission (plan : JoinPlan) (left right : Row) : Evaluation (Emission × Bool) := do
  let (kind, accepted) ← verdict plan left right
  let row ← write plan left right kind
  .ok (⟨left, kind, row⟩, accepted)

def tryPartner (plan : JoinPlan) (table : JoinTable) (left right : Row) (slot index : Nat) :
    Step Phase (Option Emission) :=
  let x := emission plan left right
  match x.outcome with
  | .error e => ⟨.error e, .finished, x.events⟩
  | .ok (em, accepted) =>
    let more := accepted && decide (index + 1 < (table.bucket slot).length)
    ⟨.ok (some em), phaseAfter left slot index more, x.events⟩

def alone (plan : JoinPlan) (left : Row) : Step Phase (Option Emission) :=
  let x := padded plan left
  match x.outcome with
  | .error e => ⟨.error e, .finished, x.events⟩
  | .ok row => ⟨.ok (some ⟨left, .padded, row⟩), .needLeft, x.events⟩

/-- A pass answers, or it leaves the join in some phase for another pass. -/
inductive Pass (σ : Type) where
  | answer (step : Step (σ × Phase) (Option Emission))
  | again (input : σ) (phase : Phase) (events : List Event)

def pass (plan : JoinPlan) (table : JoinTable) (left : Operator) (stopped : Bool)
    (s : left.State) : Phase → Pass left.State
  | .finished => .answer ⟨.ok none, (s, .finished), []⟩
  | .needLeft =>
    let step := left.next stopped s
    match step.outcome with
    | .error e => .answer ⟨.error e, (step.state, .finished), step.events⟩
    | .ok none => .answer ⟨.ok none, (step.state, .finished), step.events⟩
    | .ok (some row) =>
      match slot? plan table row with
      | .error e => .answer ⟨.error (.evaluation e), (step.state, .finished), step.events⟩
      | .ok none => .answer (((alone plan row).lift (step.state, ·)).after step.events)
      | .ok (some slot) => .again step.state (.matching row slot 0) step.events
  | .matching row slot index =>
    match (table.bucket slot)[index]? with
    | some right => .answer ((tryPartner plan table row right slot index).lift (s, ·))
    | none => .again s .needLeft []

/-- The answer of at most `n` passes, if they come to one. -/
def loop (plan : JoinPlan) (table : JoinTable) (left : Operator) (stopped : Bool) :
    Nat → left.State → Phase → Option (Step (left.State × Phase) (Option Emission))
  | 0, _, _ => none
  | n + 1, s, phase =>
    match pass plan table left stopped s phase with
    | .answer step => some step
    | .again input phase events =>
      (loop plan table left stopped n input phase).map (·.after events)

def phases (plan : JoinPlan) (table : JoinTable) (left : Operator) (stopped : Bool) :
    Nat → left.State → Phase → List Phase
  | 0, _, _ => []
  | n + 1, s, phase =>
    phase :: match pass plan table left stopped s phase with
      | .answer _ => []
      | .again input phase _ => phases plan table left stopped n input phase

def place {σ τ : Type} {α : Type} (s : State σ τ) (step : Step (σ × Phase) α) :
    Step (State σ τ) α :=
  step.lift fun (input, phase) => { s with left := input, phase }

/-- A request for a row that makes at most `n` passes. -/
def request (n : Nat) (plan : JoinPlan) (left right : Operator) (stopped : Bool)
    (s : State left.State right.State) :
    Option (Step (State left.State right.State) (Option Emission)) :=
  if stopped || s.closed || isFinished s.phase then some ⟨.ok none, s, []⟩
  else
    match s.build.table with
    | some table => (loop plan table left stopped n s.left s.phase).map (place s)
    | none =>
      let step := s.build.load right stopped s.right
      let loaded := loaded right stopped s
      match step.outcome, step.state.1.table with
      | .error e, _ => some ⟨.error e, loaded, step.events⟩
      | .ok _, none =>
        some ⟨.error (.internal "join hash table missing after load"), loaded, step.events⟩
      | .ok _, some table =>
        (loop plan table left stopped n loaded.left loaded.phase).map fun answer =>
          (place loaded answer).after step.events

variable {left right : Operator} {plan : JoinPlan} {table : JoinTable} {row partner : Row}
  {slot index n : Nat} {stopped : Bool}

/-- Both evaluate the filter and the quals first and then write the same row. -/
theorem pair_eq (plan : JoinPlan) (left right : Row) : pair plan left right =
    (emission plan left right).bind fun (em, accepted) => .ok (em.row, accepted) := by
  unfold pair emission verdict
  cases plan.filter <;>
    simp only [Traced.bind_eq, Traced.bind_assoc, Traced.ok_bind]
  · congr 1
    funext matched
    split <;> rfl
  · congr 1
    funext accepted
    congr 1
    funext matched
    split <;> rfl

theorem bare_tryPartner : bare (tryPartner plan table row partner slot index) =
    probe plan table row partner slot index := by
  unfold probe tryPartner
  rw [pair_eq]
  rcases emission plan row partner with ⟨_ | ⟨em, accepted⟩, trace⟩
  · rfl
  · simp [Traced.bind, Traced.outcome, Traced.events, Traced.ok, bare, Except.mapError, Except.map]

theorem bare_alone : bare (alone plan row) = pad plan row := by
  unfold pad alone
  rcases padded plan row with ⟨_ | out, trace⟩ <;> rfl

/-- A pass at a partner answers with the row of this partner. -/
theorem pass_matching (h : Probes plan table row slot index) (stopped : Bool) (i : left.State) :
    ∃ partner, (table.bucket slot)[index]? = some partner ∧
      pass plan table left stopped i (.matching row slot index) =
        .answer ((tryPartner plan table row partner slot index).lift (i, ·)) := by
  have hpartner := List.getElem?_eq_getElem h.index_lt
  refine ⟨_, hpartner, ?_⟩
  simp only [pass, hpartner]

/-- A pass that takes a left row ends the join, or it pads the row, or it leaves it at its first
partner. -/
theorem pass_needLeft (hkeyed : table.Keyed plan.rightKeys) (hfilled : table.Filled)
    (stopped : Bool) (i : left.State) :
    (∃ step, pass plan table left stopped i .needLeft = .answer step ∧
      step.state = ((left.next stopped i).state, .finished) ∧
      (∀ em, step.outcome ≠ .ok (some em)) ∧ bare step = pullLeft plan table left stopped i) ∨
    (∃ row, (left.next stopped i).outcome = .ok (some row) ∧
      pass plan table left stopped i .needLeft =
        .answer (((alone plan row).lift ((left.next stopped i).state, ·)).after
          (left.next stopped i).events) ∧
      pullLeft plan table left stopped i =
        ((pad plan row).lift ((left.next stopped i).state, ·)).after
          (left.next stopped i).events) ∨
    ∃ row slot partner, (left.next stopped i).outcome = .ok (some row) ∧
      Probes plan table row slot 0 ∧ (table.bucket slot)[0]? = some partner ∧
      pass plan table left stopped i .needLeft =
        .again (left.next stopped i).state (.matching row slot 0) (left.next stopped i).events ∧
      pullLeft plan table left stopped i =
        ((probe plan table row partner slot 0).lift ((left.next stopped i).state, ·)).after
          (left.next stopped i).events := by
  match hnext : (left.next stopped i).outcome with
  | .error e =>
    refine .inl ⟨_, by simp only [pass, hnext]; rfl, rfl, by simp, ?_⟩
    rw [pullLeft_error hnext]
    rfl
  | .ok none =>
    refine .inl ⟨_, by simp only [pass, hnext]; rfl, rfl, by simp, ?_⟩
    rw [pullLeft_end hnext]
    rfl
  | .ok (some row) =>
    match hslot : slot? plan table row with
    | .error e =>
      refine .inl ⟨_, by simp only [pass, hnext, hslot]; rfl, rfl, by simp, ?_⟩
      rw [pullLeft_unreadable hnext hslot]
      rfl
    | .ok none =>
      exact .inr (.inl ⟨row, rfl, by simp only [pass, hnext, hslot], pullLeft_alone hnext hslot⟩)
    | .ok (some slot) =>
      have hindex := List.length_pos_of_ne_nil (bucket_ne_nil_of_slot? hfilled hslot)
      have hpartner := List.getElem?_eq_getElem hindex
      exact .inr (.inr ⟨row, slot, _, rfl, probes_of_slot? hkeyed hslot hindex, hpartner,
        by simp only [pass, hnext, hslot], pullLeft_partner hnext hslot hpartner⟩)

/-- The left row of an answer is the one that is being matched, or it was taken just now. -/
inductive Source (left : Operator) (stopped : Bool) (i : left.State) :
    Phase → Row → left.State → Prop where
  | matching {row : Row} {slot index : Nat} :
    Source left stopped i (.matching row slot index) row i
  | taken {row : Row} (h : (left.next stopped i).outcome = .ok (some row)) :
    Source left stopped i .needLeft row (left.next stopped i).state

/-- What a left row is answered with: its padded row, or what becomes of it and a partner. -/
inductive Answers (plan : JoinPlan) (table : JoinTable) (row : Row) :
    Step Phase (Option Emission) → Prop where
  | alone : Answers plan table row (alone plan row)
  | partner {partner : Row} {slot index : Nat} (hprobes : Probes plan table row slot index)
    (hpartner : (table.bucket slot)[index]? = some partner) :
    Answers plan table row (tryPartner plan table row partner slot index)

/-- Two passes are enough, and their answer is that of the join: its end, or an answer to a left
row. -/
theorem loop_advance (hkeyed : table.Keyed plan.rightKeys) (hfilled : table.Filled) (stopped : Bool)
    (i : left.State) {phase : Phase} (hphase : phase.Probes plan table) (n : Nat) :
    ∃ step, loop plan table left stopped (n + 2) i phase = some step ∧
      bare step = advance plan table left stopped i phase ∧
      ((step.state.2 = .finished ∧ ∀ em, step.outcome ≠ .ok (some em)) ∨
        ∃ row input answer events, Source left stopped i phase row input ∧
          Answers plan table row answer ∧ step = (answer.lift (input, ·)).after events) := by
  cases phase with
  | finished => exact ⟨_, rfl, rfl, .inl ⟨rfl, by simp⟩⟩
  | needLeft =>
    rcases pass_needLeft hkeyed hfilled stopped i with
      ⟨step, hpass, hstate, hnone, hstep⟩ | ⟨row, hrow, hpass, hpull⟩ |
      ⟨row, slot, partner, hrow, hprobes, hpartner, hpass, hpull⟩
    · exact ⟨step, by simp only [loop, hpass], hstep, .inl ⟨congrArg Prod.snd hstate, hnone⟩⟩
    · refine ⟨_, by simp only [loop, hpass]; rfl, ?_, .inr ⟨row, _, _, _, .taken hrow, .alone, rfl⟩⟩
      rw [advance, hpull, ← bare_alone]
      rfl
    · -- the second pass is at the partner that the first one found
      obtain ⟨first, hfirst, hsecond⟩ := pass_matching hprobes stopped (left.next stopped i).state
      obtain rfl := Option.some.inj (hpartner.symm.trans hfirst)
      refine ⟨_, by simp only [loop, hpass, hsecond, Option.map_some]; rfl, ?_,
        .inr ⟨row, _, _, _, .taken hrow, .partner hprobes hpartner, rfl⟩⟩
      rw [advance, hpull, ← bare_tryPartner]
      rfl
  | matching row slot index =>
    have hprobes := hphase row slot index rfl
    obtain ⟨partner, hpartner, hpass⟩ := pass_matching hprobes stopped i
    refine ⟨_, by simp only [loop, hpass]; rfl, ?_,
      .inr ⟨row, i, _, [], .matching, .partner hprobes hpartner, rfl⟩⟩
    simp only [advance, hpartner, ← bare_tryPartner]
    rfl

/-- No pass finds itself behind the last partner of a left row, and the left row is the one that the
answer will be for. -/
theorem mem_phases (hkeyed : table.Keyed plan.rightKeys) (hfilled : table.Filled)
    {i : left.State} {phase visited : Phase} (hphase : phase.Probes plan table)
    (h : visited ∈ phases plan table left stopped n i phase) :
    visited.Probes plan table ∧ ∀ row slot index, visited = .matching row slot index →
      ∃ input, Source left stopped i phase row input := by
  have hfirst : phase.Probes plan table ∧ ∀ row slot index, phase = .matching row slot index →
      ∃ input, Source left stopped i phase row input := by
    refine ⟨hphase, ?_⟩
    rintro row slot index rfl
    exact ⟨i, .matching⟩
  match n with
  | 0 => cases h
  | n + 1 =>
    rw [phases] at h
    rcases List.mem_cons.mp h with rfl | h
    · exact hfirst
    cases phase with
    | finished => cases h
    | needLeft =>
      rcases pass_needLeft hkeyed hfilled stopped i with
        ⟨step, hpass, -⟩ | ⟨row, -, hpass, -⟩ | ⟨row, slot, partner, hrow, hprobes, -, hpass, -⟩
      · simp [hpass] at h
      · simp [hpass] at h
      · -- the second pass answers, so no other phase is gone through
        obtain ⟨first, -, hsecond⟩ := pass_matching hprobes stopped (left.next stopped i).state
        have hvisited : visited = .matching row slot 0 := by
          cases n with
          | zero => simp [hpass, phases] at h
          | succ n => simpa [hpass, phases, hsecond] using h
        rw [hvisited]
        constructor
        · rintro _ _ _ ⟨⟩
          exact hprobes
        · rintro _ _ _ ⟨⟩
          exact ⟨_, .taken hrow⟩
    | matching row slot index =>
      obtain ⟨partner, -, hpass⟩ := pass_matching (hphase row slot index rfl) stopped i
      simp [hpass] at h

/-- A join takes a left row at most once in a request, and it is at its end only if its left input
is. -/
theorem advance_left (hkeyed : table.Keyed plan.rightKeys) (hfilled : table.Filled)
    (stopped : Bool) (i : left.State) {phase : Phase} (hphase : phase.Probes plan table) :
    (advance plan table left stopped i phase).state.1 = i ∨
      (advance plan table left stopped i phase).state.1 = (left.next stopped i).state ∧
        ((advance plan table left stopped i phase).outcome = .ok none →
          (left.next stopped i).outcome = .ok none) := by
  cases phase with
  | finished => exact .inl rfl
  | needLeft =>
    refine .inr ⟨?_, (pullLeft_end_iff hfilled i).mp⟩
    rcases pass_needLeft hkeyed hfilled stopped i with
      ⟨step, -, hstate, -, hstep⟩ | ⟨row, -, -, hpull⟩ | ⟨row, slot, partner, -, -, -, -, hpull⟩
    · rw [advance, ← hstep]
      exact congrArg Prod.fst hstate
    · rw [advance, hpull]
      rfl
    · rw [advance, hpull]
      rfl
  | matching row slot index =>
    have hpartner := List.getElem?_eq_getElem (hphase row slot index rfl).index_lt
    simp only [advance, hpartner]
    exact .inl rfl

/-- A join in some phase has the table for its passes. -/
structure Equipped {σ τ : Type} (plan : JoinPlan) (table : JoinTable) (phase : Phase)
    (s : State σ τ) : Prop where
  table_eq : s.build.table = some table
  keyed : table.Keyed plan.rightKeys
  filled : table.Filled
  probes : phase.Probes plan table

section

variable {s : State left.State right.State}

theorem request_idle (hidle : (stopped || s.closed || isFinished s.phase) = true) :
    request n plan left right stopped s = some ⟨.ok none, s, []⟩ :=
  if_pos hidle

variable (hbusy : (stopped || s.closed || isFinished s.phase) = false)

include hbusy

theorem request_ready (htable : s.build.table = some table) :
    request n plan left right stopped s =
      (loop plan table left stopped n s.left s.phase).map (place s) := by
  simp [request, hbusy, htable]

theorem request_fails (hnone : s.build.table = none) {e : Failure}
    (hload : (s.build.load right stopped s.right).outcome = .error e) :
    request n plan left right stopped s =
      some ⟨.error e, loaded right stopped s, (s.build.load right stopped s.right).events⟩ := by
  simp [request, hbusy, hnone, hload]

theorem request_builds (hnone : s.build.table = none)
    (hload : (s.build.load right stopped s.right).outcome = .ok ())
    (htable : (s.build.load right stopped s.right).state.1.table = some table) :
    request n plan left right stopped s =
      (loop plan table left stopped n s.left s.phase).map fun answer =>
        (place (loaded right stopped s) answer).after
          (s.build.load right stopped s.right).events := by
  simp [request, hbusy, hnone, hload, htable, loaded]

end

/-- A request makes no pass and has no row to answer, or it makes its passes with a table, which it
may have to build first. -/
theorem request_cases {s : State left.State right.State} (hstands : Stands plan s)
    (hsound : Sound s) (stopped : Bool) :
    (∃ step, (∀ n, request n plan left right stopped s = some step) ∧
      bare step = next plan left right stopped s ∧ step.state.left = s.left ∧
      step.state.phase = s.phase ∧ ∀ em, step.outcome ≠ .ok (some em)) ∨
    ∃ table t events, Equipped plan table s.phase t ∧
      (∀ n, request n plan left right stopped s =
        (loop plan table left stopped n s.left s.phase).map fun answer =>
          (place t answer).after events) ∧
      next plan left right stopped s =
        (place t (advance plan table left stopped s.left s.phase)).after events := by
  cases hidle : (stopped || s.closed || isFinished s.phase) with
  | true =>
    refine .inl ⟨_, fun n => request_idle hidle, ?_, rfl, rfl, by simp⟩
    rw [next_idle hidle]
    rfl
  | false =>
    cases htable : s.build.table with
    | some table =>
      have hequipped : Equipped plan table s.phase s :=
        ⟨htable, hstands.keyed table htable, hsound.filled table htable, hstands.probes htable⟩
      exact .inr ⟨table, s, [], hequipped, fun n => request_ready hidle htable,
        next_ready hidle htable⟩
    | none =>
      rcases s.build.load_cases right stopped s.right with ⟨e, hout, -⟩ | ⟨table, hout, hbuild⟩
      · refine .inl ⟨_, fun n => request_fails hidle htable hout, ?_, rfl, rfl, by simp⟩
        rw [next_fails hidle htable hout]
        rfl
      · have hthere := congrArg BuildSide.table hbuild
        have hnext : next plan left right stopped s = _ := next_builds hidle htable hout hthere
        have hfilled := (hsound.next plan stopped).filled table (by rw [hnext]; exact hthere)
        have hequipped : Equipped plan table s.phase (loaded right stopped s) :=
          ⟨hthere, (hstands.loaded htable stopped).keyed table hthere, hfilled,
            hstands.probes_of_none htable table⟩
        exact .inr ⟨table, _, _, hequipped, fun n => request_builds hidle htable hout hthere, hnext⟩

/-- What comes of a request: no row, and the join is at its end or where it was, or an answer to a
left row. -/
inductive Replies (plan : JoinPlan) (left right : Operator) (stopped : Bool)
    (s : State left.State right.State)
    (step : Step (State left.State right.State) (Option Emission)) : Prop where
  | silent (hnone : ∀ em, step.outcome ≠ .ok (some em))
    (hstate : step.state.phase = .finished ∨
      step.state.phase = s.phase ∧ step.state.left = s.left)
  | answer {table : JoinTable} {row : Row} {answer : Step Phase (Option Emission)}
    (htable : step.state.build.table = some table)
    (hsource : Source left stopped s.left s.phase row step.state.left)
    (hanswer : Answers plan table row answer) (houtcome : step.outcome = answer.outcome)
    (hphase : step.state.phase = answer.state)

/-- Two passes are enough for every request. -/
theorem exists_request {s : State left.State right.State} (hstands : Stands plan s)
    (hsound : Sound s) (stopped : Bool) (n : Nat) :
    ∃ step, request (n + 2) plan left right stopped s = some step ∧
      bare step = next plan left right stopped s ∧ Replies plan left right stopped s step := by
  rcases request_cases hstands hsound stopped with
    ⟨step, hrequest, hstep, hleft, hphase, hnone⟩ | ⟨table, t, events, hequipped, hrequest, hnext⟩
  · exact ⟨step, hrequest (n + 2), hstep, .silent hnone (.inr ⟨hphase, hleft⟩)⟩
  · obtain ⟨answer, hloop, hanswer, hcases⟩ :=
      loop_advance hequipped.keyed hequipped.filled stopped s.left hequipped.probes n
    refine ⟨(place t answer).after events, by rw [hrequest, hloop]; rfl, ?_, ?_⟩
    · rw [hnext, ← hanswer]
      rfl
    · rcases hcases with ⟨hfinished, hnone⟩ | ⟨row, input, answer, events, hsource, hreply, rfl⟩
      · exact .silent hnone (.inl hfinished)
      · exact .answer hequipped.table_eq hsource hreply rfl rfl

/-- A request takes a left row at most once, and after that it is at its end only if the left input
is. -/
theorem next_left {s : State left.State right.State} (hstands : Stands plan s)
    (hsound : Sound s) (stopped : Bool) :
    (next plan left right stopped s).state.left = s.left ∨
      (next plan left right stopped s).state.left = (left.next stopped s.left).state ∧
        ((next plan left right stopped s).outcome = .ok none →
          (left.next stopped s.left).outcome = .ok none) := by
  rcases request_cases hstands hsound stopped with
    ⟨step, -, hstep, hleft, -⟩ | ⟨table, t, events, hequipped, -, hnext⟩
  · rw [← hstep]
    exact .inl hleft
  · rw [hnext]
    exact advance_left hequipped.keyed hequipped.filled stopped s.left hequipped.probes

/-- A left row that is matched in some pass is the one that the request began with or took. -/
theorem mem_phases_of_request {s : State left.State right.State} (hstands : Stands plan s)
    (hsound : Sound s) {stopped : Bool}
    (htable : (next plan left right stopped s).state.build.table = some table) {visited : Phase}
    (h : visited ∈ phases plan table left stopped n s.left s.phase) :
    visited.Probes plan table ∧ ∀ row slot index, visited = .matching row slot index →
      ∃ input, Source left stopped s.left s.phase row input := by
  have hkeyed := (hstands.next stopped).keyed table htable
  have hfilled := (hsound.next plan stopped).filled table htable
  have hphase : s.phase.Probes plan table := by
    obtain ⟨-, -, ⟨-, hbuild⟩ | ⟨-, -, hnone, -, -⟩⟩ := next_cases left right plan stopped s
    · exact hstands.probes (by rw [← hbuild]; exact htable)
    · exact hstands.probes_of_none hnone table
  exact mem_phases hkeyed hfilled hphase h

/-- That the inputs remember what they are asked makes no difference to a join. -/
theorem map_observed (left right : Operator) (plan : JoinPlan) (commands : List Command) :
    (observed left right plan commands).state.map Recorded.input Recorded.input =
      ((Task.start (left.leftJoin right plan)).run commands).state :=
  ((recorded_extends left).leftJoin (recorded_extends right) plan).state_run commands

theorem observed_run (left right : Operator) (plan : JoinPlan) (commands more : List Command) :
    (observed left right plan commands).run more = observed left right plan (commands ++ more) :=
  (Task.run_append _ commands more).symm

/-- The next request for a row takes one from the left input. -/
def Takes (task : Task (left.recorded.leftJoin right.recorded plan)) : Prop :=
  (task.after .next).state.left.asked = task.state.left.asked ++ [.next] ∧
    ∃ row, (left.next task.stopped task.state.left.input).outcome = .ok (some row)

/-- A request that takes a left row fails or answers with a row. -/
theorem Takes.answered {task : Task (left.recorded.leftJoin right.recorded plan)} (h : Takes task)
    (hstands : Stands plan task.state) (hsound : Sound task.state) :
    (∃ e, (next plan left.recorded right.recorded task.stopped task.state).outcome = .error e) ∨
      ∃ row, (next plan left.recorded right.recorded task.stopped task.state).outcome =
        .ok (some row) := by
  obtain ⟨hasked, row, hrow⟩ := h
  match hanswer : (next plan left.recorded right.recorded task.stopped task.state).outcome with
  | .error e => exact .inl ⟨e, rfl⟩
  | .ok (some row) => exact .inr ⟨row, rfl⟩
  | .ok none =>
    exfalso
    rcases next_left hstands hsound task.stopped with hleft | ⟨-, hinput⟩
    · have hsame := (congrArg Recorded.asked hleft).symm.trans hasked
      simp at hsame
    · cases (hinput hanswer).symm.trans hrow

/-- How many rows are taken from the left input while a join carries out some commands. -/
def taken (task : Task (left.recorded.leftJoin right.recorded plan)) : List Command → Nat
  | [] => 0
  | .next :: more =>
    (if (task.after .next).state.left.asked = task.state.left.asked then 0
      else rowCount (left.next task.stopped task.state.left.input).outcome) +
      taken (task.after .next) more
  | command :: more => taken (task.after command) more

/-- A left row that is taken is answered with a row or with a failure. -/
theorem taken_next_le {task : Task (left.recorded.leftJoin right.recorded plan)}
    (hstands : Stands plan task.state) (hsound : Sound task.state) :
    let answer := (next plan left.recorded right.recorded task.stopped task.state).outcome
    (if (task.after .next).state.left.asked = task.state.left.asked then 0
      else rowCount (left.next task.stopped task.state.left.input).outcome) ≤
      rowCount answer + if !answer.isOk then 1 else 0 := by
  intro answer
  split
  · exact Nat.zero_le _
  · rename_i hasked
    match hrow : (left.next task.stopped task.state.left.input).outcome with
    | .error e => exact Nat.zero_le _
    | .ok none => exact Nat.zero_le _
    | .ok (some row) =>
      have htakes : Takes task := by
        rcases next_left hstands hsound task.stopped with hleft | ⟨hleft, -⟩
        · exact absurd (congrArg Recorded.asked hleft) hasked
        · exact ⟨congrArg Recorded.asked hleft, row, hrow⟩
      rcases htakes.answered hstands hsound with ⟨e, he⟩ | ⟨out, hout⟩
      · simp [answer, he, Except.isOk, Except.toBool]
      · simp [answer, hout]

/-- Every left row that is taken is answered with a row or a failure. -/
theorem taken_le (left right : Operator) (plan : JoinPlan) (commands more : List Command) :
    let task := observed left right plan commands
    taken task more ≤ rowsIn (task.answers more) + (task.answers more).countP (!·.isOk) := by
  induction more generalizing commands with
  | nil => exact Nat.le_refl 0
  | cons command more ih =>
    have hrest := ih (commands ++ [command])
    rw [← observed_run] at hrest
    cases command with
    | rescan | close | stop => exact hrest
    | next =>
      have hstands := stands_observed left.recorded right.recorded plan commands
      have hnext := taken_next_le hstands (sound_run commands)
      dsimp only
      rw [taken, Task.answers, rowsIn_cons, List.countP_cons]
      refine Nat.le_trans (Nat.add_le_add hnext hrest) (Nat.le_of_eq ?_)
      exact (Nat.add_add_add_comm _ _ _ _).trans (congrArg _ (Nat.add_comm _ _))

/-- What is to be said of the passes of a join after some commands, where `task` is the join of two
inputs that remember what they are asked. -/
structure Proceeds (commands : List Command)
    (task : Task (left.recorded.leftJoin right.recorded plan)) : Prop where
  /-- That the inputs remember makes no difference to the join. -/
  plain : task.state.map Recorded.input Recorded.input =
    ((Task.start (left.leftJoin right plan)).run commands).state
  /-- A left row that is being matched stands at a partner in the table. -/
  matching : ∀ row slot index, task.state.phase = .matching row slot index →
    ∃ table, task.state.build.table = some table ∧ Probes plan table row slot index
  /-- A request makes two passes at most. -/
  passes : ∀ stopped n, ∃ step,
    request (n + 2) plan left.recorded right.recorded stopped task.state = some step ∧
      bare step = next plan left.recorded right.recorded stopped task.state
  /-- A left row stands at a partner in all passes that a request makes or could make. -/
  within : ∀ stopped table,
    (next plan left.recorded right.recorded stopped task.state).state.build.table = some table →
      ∀ n, ∀ phase ∈ phases plan table left.recorded stopped n task.state.left task.state.phase,
        phase.Probes plan table
  /-- A request asks the left input for one row at most. -/
  pulls : ∀ stopped,
    let asked := (next plan left.recorded right.recorded stopped task.state).state.left.asked
    asked = task.state.left.asked ∨ asked = task.state.left.asked ++ [.next]
  /-- A request that takes a left row fails or answers with a row. -/
  answered : Takes task →
    let answer := (next plan left.recorded right.recorded task.stopped task.state).outcome
    (∃ e, answer = .error e) ∨ ∃ row, answer = .ok (some row)
  /-- While any more commands are carried out, no more left rows are taken than requests are answered
  with a row or fail. -/
  taken_le : ∀ more, taken task more ≤
    rowsIn (task.answers more) + (task.answers more).countP (!·.isOk)
  /-- Between two requests that take a left row, the first of them included, a request fails or
  answers with a row, whatever else the join is told. -/
  between : ∀ more, Takes task → Takes (task.run (.next :: more)) →
    (∃ e, .error e ∈ task.answers (.next :: more)) ∨ 1 ≤ rowsIn (task.answers (.next :: more))

/-- Whatever its inputs do and whatever it is told, a join stands at a partner while it matches a
left row, makes two passes at most for a request, and has an answer for every left row. -/
theorem proceeds_observed (left right : Operator) (plan : JoinPlan) (commands : List Command) :
    Proceeds commands (observed left right plan commands) := by
  have hstands := stands_observed left.recorded right.recorded plan commands
  have hsound : Sound (observed left right plan commands).state := sound_run commands
  constructor
  case plain => exact map_observed left right plan commands
  case matching => exact hstands.phase
  case passes =>
    intro stopped n
    obtain ⟨step, hrequest, hstep, -⟩ := exists_request hstands hsound stopped n
    exact ⟨step, hrequest, hstep⟩
  case within =>
    intro stopped table htable n phase hphase
    exact (mem_phases_of_request hstands hsound htable hphase).1
  case pulls =>
    intro stopped
    exact (next_left hstands hsound stopped).imp (congrArg Recorded.asked)
      fun h => congrArg Recorded.asked h.1
  case answered =>
    intro htakes
    exact htakes.answered hstands hsound
  case taken_le => exact taken_le left right plan commands
  case between =>
    intro more htakes _
    rcases htakes.answered hstands hsound with ⟨e, he⟩ | ⟨row, hrow⟩
    · exact .inl ⟨e, List.mem_cons.mpr (.inl he.symm)⟩
    · have hcount := (congrArg rowCount hrow).trans (rowCount_some row)
      exact .inr (Nat.le_trans (Nat.le_of_eq hcount.symm) (Nat.le_add_right _ _))

end Join

end RowEngine
