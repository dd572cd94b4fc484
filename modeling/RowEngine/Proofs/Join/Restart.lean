import Mathlib.Order.Compare
import RowEngine.Proofs.Join.Emission
import RowEngine.Proofs.Join.Step
import RowEngine.Proofs.Operator.Answers
import RowEngine.Proofs.Value.Conforming

/-!
# Joins that are started over in vain

A join that is started over turns to the next left row at once, also if its left input cannot be
started over. Where the join was about to take a left row anyway this makes no difference, but the
partners still to come of the current left row are lost.
-/

namespace RowEngine

open Operator

def JoinTable.Filled (table : JoinTable) : Prop := ∀ b ∈ table.buckets, b.rows ≠ []

theorem JoinTable.Filled.bucket_ne_nil {table : JoinTable} (h : table.Filled) {key : List Value}
    {slot : Nat} (hslot : table.find? key = some slot) : table.bucket slot ≠ [] := by
  obtain ⟨b, hb, -⟩ := rowsUnder_of_findIdx?_some hslot
  rw [bucket, hb]
  exact h b (List.mem_of_getElem? hb)

theorem Buildup.add_filled {ids : List Nat} {b b' : Buildup} {row : Row} (hb : b.table.Filled)
    (h : b.add ids row = .ok b') : b'.table.Filled := by
  unfold add at h
  split at h
  · cases h
  · obtain rfl := Except.ok.inj h
    split
    · exact hb
    · exact insertRow_filled _ row _ hb

theorem BuildSide.table_release (build : BuildSide) : build.release.state.table = none := by
  unfold release
  split
  · rfl
  · assumption

namespace Join

variable {left right : Operator} {plan : JoinPlan} {table : JoinTable} {row partner : Row}
  {stopped : Bool}

theorem bucket_ne_nil_of_slot? (hfilled : table.Filled) {slot : Nat}
    (hslot : slot? plan table row = .ok (some slot)) : table.bucket slot ≠ [] := by
  obtain ⟨key, -, hfind⟩ := map_eq_ok.mp hslot
  split at hfind
  · cases hfind
  · exact hfilled.bucket_ne_nil hfind

/-- Trying a partner gives a row or fails. -/
theorem probe_outcome_ne_none (slot index : Nat) :
    (probe plan table row partner slot index).outcome ≠ .ok none := by
  unfold probe
  dsimp only
  split <;> simp

theorem pad_outcome_ne_none : (pad plan row).outcome ≠ .ok none := by
  unfold pad
  dsimp only
  split <;> simp

/-- A join is at its end just if its left input is, since every left row is answered. -/
theorem pullLeft_end_iff (hfilled : table.Filled) (i : left.State) :
    (pullLeft plan table left stopped i).outcome = .ok none ↔
      (left.next stopped i).outcome = .ok none := by
  constructor
  · intro h
    match hnext : (left.next stopped i).outcome with
    | .error e => simp [pullLeft_error hnext] at h
    | .ok none => rfl
    | .ok (some row) =>
      match hslot : slot? plan table row with
      | .error e => simp [pullLeft_unreadable hnext hslot] at h
      | .ok none =>
        rw [pullLeft_alone hnext hslot] at h
        exact absurd h pad_outcome_ne_none
      | .ok (some slot) =>
        obtain ⟨partner, rest, hcons⟩ :=
          List.exists_cons_of_ne_nil (bucket_ne_nil_of_slot? hfilled hslot)
        have hpartner : (table.bucket slot)[0]? = some partner := by rw [hcons]; rfl
        rw [pullLeft_partner hnext hslot hpartner] at h
        exact absurd h (probe_outcome_ne_none slot 0)
  · intro h
    rw [pullLeft_end h]

/-- A partner that is to be tried is there. -/
inductive Phase.Within (table : JoinTable) : Phase → Prop where
  | needLeft : Within table .needLeft
  | matching {row : Row} {slot index : Nat} (h : index < (table.bucket slot).length) :
      Within table (.matching row slot index)
  | finished : Within table .finished

theorem within_probe (slot index : Nat) :
    (probe plan table row partner slot index).state.Within table := by
  unfold probe
  dsimp only
  split
  · exact .finished
  · unfold phaseAfter
    dsimp only
    split
    · rename_i hmore
      simp only [Bool.and_eq_true, decide_eq_true_eq] at hmore
      exact .matching hmore.2
    · exact .needLeft

theorem within_pad : (pad plan row).state.Within table := by
  unfold pad
  dsimp only
  split
  · exact .finished
  · exact .needLeft

theorem within_pullLeft (i : left.State) :
    (pullLeft plan table left stopped i).state.2.Within table := by
  fun_induction pullLeft plan table left stopped i with
  | case1 | case2 | case3 => exact .finished
  | case4 => exact within_pad
  | case5 => exact within_probe _ _
  | case6 _ _ _ _ _ _ _ ih => exact ih

theorem within_advance (i : left.State) (phase : Phase) :
    (advance plan table left stopped i phase).state.2.Within table := by
  cases phase with
  | finished => exact .finished
  | needLeft => exact within_pullLeft i
  | matching row slot index =>
    unfold advance
    dsimp only
    split
    · exact within_probe _ _
    · exact within_pullLeft i

/-- A join that was not closed has its table unless it is to take a left row next, and no bucket of
the table is empty. -/
structure Sound {σ τ : Type} (s : State σ τ) : Prop where
  filled : ∀ table, s.build.table = some table → table.Filled
  placed : s.closed = true ∨ s.phase = .needLeft ∨
    ∃ table, s.build.table = some table ∧ s.phase.Within table

/-- Where a join stands that was not closed and is not to take a left row next. -/
theorem Sound.exists_table {σ τ : Type} {s : State σ τ} (h : Sound s) (hopen : s.closed = false)
    (hphase : s.phase ≠ .needLeft) :
    ∃ table, s.build.table = some table ∧ table.Filled ∧ s.phase.Within table := by
  rcases h.placed with hclosed | hneed | ⟨table, htable, hwithin⟩
  · rw [hopen] at hclosed
    cases hclosed
  · exact absurd hneed hphase
  · exact ⟨table, htable, h.filled table htable, hwithin⟩

theorem Sound.withTable {s : State left.State right.State} (h : Sound s)
    (htable : s.build.table = some table) : Sound (withTable plan table left stopped s).state :=
  ⟨h.filled, .inr (.inr ⟨table, htable, within_advance s.left s.phase⟩)⟩

theorem Sound.next {s : State left.State right.State} (h : Sound s) (plan : JoinPlan)
    (stopped : Bool) : Sound (next plan left right stopped s).state := by
  cases hidle : (stopped || s.closed || isFinished s.phase) with
  | true =>
    rw [next_idle hidle]
    exact h
  | false =>
    cases htable : s.build.table with
    | some table =>
      rw [next_ready hidle htable]
      exact h.withTable htable
    | none =>
      have hempty : JoinTable.empty.Filled := by simp [JoinTable.Filled, JoinTable.empty]
      have hloads := load_keeps right.emits_any stopped (s := s.right) trivial hempty
        (fun _ _ _ hb _ hadd => Buildup.add_filled hb hadd) h.filled
      have hplaced : s.closed = true ∨ s.phase = .needLeft := by
        rcases h.placed with hclosed | hphase | ⟨table, hthere, -⟩
        · exact .inl hclosed
        · exact .inr hphase
        · rw [htable] at hthere
          cases hthere
      have hloaded : Sound (loaded right stopped s) := ⟨hloads.2, hplaced.imp_right .inl⟩
      rcases s.build.load_cases right stopped s.right with ⟨e, hout, -⟩ | ⟨table, hout, hbuild⟩
      · rw [next_fails hidle htable hout]
        exact hloaded
      · have hthere := congrArg BuildSide.table hbuild
        rw [next_builds hidle htable hout hthere]
        exact hloaded.withTable hthere

/-- The table stays filled and the phase inside it, whatever the commands. -/
theorem sound_run (commands : List Command) :
    Sound ((Task.start (left.leftJoin right plan)).run commands).state := by
  have hrescan (s : State left.State right.State) (h : Sound s) :
      Sound (rescan left right s).state := ⟨h.filled, .inr (.inl rfl)⟩
  have hclose (s : State left.State right.State) (h : Sound s) :
      Sound (close left right s).state := by
    have hreleased := s.build.table_release
    unfold close
    split
    · exact h
    · refine ⟨fun table htable => ?_, .inl rfl⟩
      exact absurd (htable.symm.trans hreleased) (by simp)
  have hstart : Sound (Task.start (left.leftJoin right plan)).state :=
    ⟨fun _ h => (nomatch h), .inr (.inl rfl)⟩
  exact Task.run_keeps (fun stopped _ h => h.next plan stopped) hrescan hclose
    (Task.start (left.leftJoin right plan)) hstart commands

/-- The left input is asked for the same and answers alike, so the join goes on alike. -/
theorem pullLeft_alike (plan : JoinPlan) (table : JoinTable) {i j : left.State}
    (h : Alike (⟨i, false⟩ : Task left) (⟨j, false⟩ : Task left)) :
    (pullLeft plan table left false i).outcome = (pullLeft plan table left false j).outcome ∧
      (pullLeft plan table left false i).state.2 = (pullLeft plan table left false j).state.2 ∧
      Alike (⟨(pullLeft plan table left false i).state.1, false⟩ : Task left)
        (⟨(pullLeft plan table left false j).state.1, false⟩ : Task left) := by
  fun_induction pullLeft plan table left false i generalizing j
  case case1 i step e hout =>
    obtain ⟨hsame, hafter⟩ := h.next
    rw [pullLeft_error (hsame.symm.trans hout)]
    exact ⟨rfl, rfl, hafter⟩
  case case2 i step hout =>
    obtain ⟨hsame, hafter⟩ := h.next
    rw [pullLeft_end (hsame.symm.trans hout)]
    exact ⟨rfl, rfl, hafter⟩
  case case3 i step row hout e hslot =>
    obtain ⟨hsame, hafter⟩ := h.next
    rw [pullLeft_unreadable (hsame.symm.trans hout) hslot]
    exact ⟨rfl, rfl, hafter⟩
  case case4 i step row hout hslot =>
    obtain ⟨hsame, hafter⟩ := h.next
    rw [pullLeft_alone (hsame.symm.trans hout) hslot]
    exact ⟨rfl, rfl, hafter⟩
  case case5 i step row hout slot hslot partner hpartner =>
    obtain ⟨hsame, hafter⟩ := h.next
    rw [pullLeft_partner (hsame.symm.trans hout) hslot hpartner]
    exact ⟨rfl, rfl, hafter⟩
  case case6 i step row hout slot hslot hnone ih =>
    obtain ⟨hsame, hafter⟩ := h.next
    rw [pullLeft_gone (hsame.symm.trans hout) hslot hnone]
    exact ih hafter

theorem advance_alike (plan : JoinPlan) (table : JoinTable) {i j : left.State}
    (h : Alike (⟨i, false⟩ : Task left) (⟨j, false⟩ : Task left)) (phase : Phase) :
    (advance plan table left false i phase).outcome =
        (advance plan table left false j phase).outcome ∧
      (advance plan table left false i phase).state.2 =
        (advance plan table left false j phase).state.2 ∧
      Alike (⟨(advance plan table left false i phase).state.1, false⟩ : Task left)
        (⟨(advance plan table left false j phase).state.1, false⟩ : Task left) := by
  cases phase with
  | finished => exact ⟨rfl, rfl, h⟩
  | needLeft => exact pullLeft_alike plan table h
  | matching row slot index =>
    unfold advance
    dsimp only
    split
    · exact ⟨rfl, rfl, h⟩
    · exact pullLeft_alike plan table h

/-- Two states of a join that differ in nothing but where the left input stands, and there it
answers alike. -/
structure LeftAlike (s t : State left.State right.State) : Prop where
  left : Alike (⟨s.left, false⟩ : Task left) (⟨t.left, false⟩ : Task left)
  right : s.right = t.right
  build : s.build = t.build
  phase : s.phase = t.phase
  closed : s.closed = t.closed

namespace LeftAlike

variable {s t : State left.State right.State}

theorem withTable (h : LeftAlike s t) (plan : JoinPlan) (table : JoinTable) :
    (Join.withTable plan table left false s).outcome =
        (Join.withTable plan table left false t).outcome ∧
      LeftAlike (Join.withTable plan table left false s).state
        (Join.withTable plan table left false t).state := by
  obtain ⟨i, r, build, phase, closed⟩ := s
  obtain ⟨j, _, _, _, _⟩ := t
  obtain ⟨hleft, rfl, rfl, rfl, rfl⟩ := h
  obtain ⟨houtcome, hphase, hafter⟩ := advance_alike plan table hleft phase
  exact ⟨houtcome, hafter, rfl, rfl, hphase, rfl⟩

theorem loaded (h : LeftAlike s t) :
    LeftAlike (loaded right stopped s) (loaded right stopped t) := by
  obtain ⟨i, r, build, phase, closed⟩ := s
  obtain ⟨j, _, _, _, _⟩ := t
  obtain ⟨hleft, rfl, rfl, rfl, rfl⟩ := h
  exact ⟨hleft, rfl, rfl, rfl, rfl⟩

/-- A request for a row is answered the same in both, and they stay alike. -/
theorem next (h : LeftAlike s t) (plan : JoinPlan) (stopped : Bool) :
    (Join.next plan left right stopped s).outcome =
        (Join.next plan left right stopped t).outcome ∧
      LeftAlike (Join.next plan left right stopped s).state
        (Join.next plan left right stopped t).state := by
  have hsame : (stopped || s.closed || isFinished s.phase) =
      (stopped || t.closed || isFinished t.phase) := by rw [h.closed, h.phase]
  cases hidle : (stopped || s.closed || isFinished s.phase) with
  | true =>
    rw [next_idle hidle, next_idle (hsame.symm.trans hidle)]
    exact ⟨rfl, h⟩
  | false =>
    have hidle' := hsame.symm.trans hidle
    obtain rfl : stopped = false := by simp_all
    cases htable : s.build.table with
    | some table =>
      rw [next_ready hidle htable, next_ready hidle' (h.build ▸ htable)]
      exact h.withTable plan table
    | none =>
      have htable' : t.build.table = none := h.build ▸ htable
      rcases s.build.load_cases right false s.right with ⟨e, hout, -⟩ | ⟨table, hout, hbuild⟩
      · have hout' : (t.build.load right false t.right).outcome = .error e := by
          rw [← h.build, ← h.right, hout]
        rw [next_fails hidle htable hout, next_fails hidle' htable' hout']
        exact ⟨rfl, h.loaded⟩
      · have hthere := congrArg BuildSide.table hbuild
        have hout' : (t.build.load right false t.right).outcome = .ok () := by
          rw [← h.build, ← h.right, hout]
        have hthere' : (t.build.load right false t.right).state.1.table = some table := by
          rw [← h.build, ← h.right, hthere]
        rw [next_builds hidle htable hout hthere, next_builds hidle' htable' hout' hthere']
        exact h.loaded.withTable plan table

theorem alike (h : LeftAlike s t) (stopped : Bool) :
    Alike (⟨s, stopped⟩ : Task (left.leftJoin right plan))
      (⟨t, stopped⟩ : Task (left.leftJoin right plan)) := by
  let R (u v : Task (left.leftJoin right plan)) : Prop :=
    u.stopped = v.stopped ∧ LeftAlike u.state v.state
  refine Alike.of_step (R := R) ?_ (fun _ _ h => ⟨rfl, h.2⟩) ⟨rfl, h⟩
  rintro ⟨s, stopped⟩ ⟨t, _⟩ ⟨rfl, h⟩
  obtain ⟨houtcome, hafter⟩ := h.next plan stopped
  exact ⟨houtcome, rfl, hafter⟩

end LeftAlike

/-- A join that was closed, or whose task was stopped, answers as any other such join. -/
theorem alike_of_idle {t u : Task (left.leftJoin right plan)}
    (ht : t.stopped = true ∨ t.state.closed = true)
    (hu : u.stopped = true ∨ u.state.closed = true) : Alike t u := by
  let Idle (t : Task (left.leftJoin right plan)) : Prop :=
    t.stopped = true ∨ t.state.closed = true
  have hnext {t : Task (left.leftJoin right plan)} (h : Idle t) :
      (left.leftJoin right plan).next t.stopped t.state = ⟨.ok none, t.state, []⟩ := by
    refine next_idle ?_
    rcases h with h | h <;> simp [h]
  refine Alike.of_step (R := fun t u => Idle t ∧ Idle u) ?_ ?_ ⟨ht, hu⟩
  · rintro t u ⟨ht, hu⟩
    simp only [Task.after, hnext ht, hnext hu, true_and]
    exact ⟨ht, hu⟩
  · exact fun _ _ _ => ⟨.inl rfl, .inl rfl⟩

/-- A join that asks its left input once more and finds it at its end answers as if it had not. -/
theorem alike_of_end {s t : State left.State right.State} (htable : s.build.table = some table)
    (hs : s.phase = .needLeft) (hend : (left.next false s.left).outcome = .ok none)
    (ht : t.phase = .finished) (stopped : Bool) :
    Alike (⟨s, stopped⟩ : Task (left.leftJoin right plan))
      (⟨t, stopped⟩ : Task (left.leftJoin right plan)) := by
  let Ends (t : Task (left.leftJoin right plan)) : Prop :=
    t.state.phase = .finished ∨ t.state.build.table = some table ∧ t.state.phase = .needLeft ∧
      (left.next false t.state.left).outcome = .ok none
  have hnext {t : Task (left.leftJoin right plan)} (h : Ends t) :
      ((left.leftJoin right plan).next t.stopped t.state).outcome = .ok none ∧
        Ends (t.after .next) := by
    cases hidle : (t.stopped || t.state.closed || isFinished t.state.phase) with
    | true =>
      have hstep : (left.leftJoin right plan).next t.stopped t.state = ⟨.ok none, t.state, []⟩ :=
        next_idle hidle
      simp only [Task.after, hstep, true_and]
      exact h
    | false =>
      obtain hphase | ⟨htable, hphase, hend⟩ := h
      · simp [hphase, isFinished] at hidle
      · obtain ⟨s, stopped⟩ := t
        obtain rfl : stopped = false := by simp_all
        have hstep : (left.leftJoin right plan).next false s = withTable plan table left false s :=
          next_ready hidle htable
        have hneed : s.phase = .needLeft := hphase
        simp only [Task.after, hstep, withTable, hneed, advance, pullLeft_end hend]
        exact ⟨rfl, .inl rfl⟩
  refine Alike.of_step (R := fun t u => Ends t ∧ Ends u) ?_ (fun _ _ h => h)
    ⟨.inr ⟨htable, hs, hend⟩, .inl ht⟩
  rintro t u ⟨ht, hu⟩
  exact ⟨(hnext ht).1.trans (hnext hu).1.symm, (hnext ht).2, (hnext hu).2⟩

/-- The current left row can be joined with all partners still to come. -/
def JoinsOn (plan : JoinPlan) {σ τ : Type} (s : State σ τ) : Prop :=
  ∀ row slot index table, s.phase = .matching row slot index → s.build.table = some table →
    ∀ partner ∈ (table.bucket slot).drop index, ∃ out, (pair plan row partner).outcome = .ok out

/-- The next partner is answered with a row, and the join goes on to the partner after it or to the
next left row. -/
theorem next_matching {s : State left.State right.State} (hopen : s.closed = false)
    (htable : s.build.table = some table) {slot index : Nat}
    (hpartner : (table.bucket slot)[index]? = some partner) {out : Row} {accepted : Bool}
    (hpair : (pair plan row partner).outcome = .ok (out, accepted)) :
    let step := next plan left right false { s with phase := .matching row slot index }
    let more := accepted && decide (index + 1 < (table.bucket slot).length)
    step.outcome = .ok (some out) ∧
      step.state = { s with phase := phaseAfter row slot index more } := by
  have hready : next plan left right false { s with phase := .matching row slot index } =
      withTable plan table left false { s with phase := .matching row slot index } :=
    next_ready (by simp [hopen, isFinished]) htable
  simp only [hready, withTable, advance, hpartner, probe, hpair]
  exact ⟨rfl, rfl⟩

/-- The partners still to come are answered with a row each, up to the first that the filter does
not accept. Then the join takes the next left row. -/
theorem exists_run_needLeft {s : State left.State right.State} (hopen : s.closed = false)
    (htable : s.build.table = some table) {slot index : Nat}
    (hindex : index < (table.bucket slot).length)
    (hjoins : ∀ partner ∈ (table.bucket slot).drop index,
      ∃ out, (pair plan row partner).outcome = .ok out) :
    let task : Task (left.leftJoin right plan) :=
      ⟨{ s with phase := .matching row slot index }, false⟩
    ∃ n, 0 < rowsIn (task.answers (List.replicate n .next)) ∧
      task.run (List.replicate n .next) = ⟨{ s with phase := .needLeft }, false⟩ := by
  intro task
  rw [List.drop_eq_getElem_cons hindex, List.forall_mem_cons] at hjoins
  obtain ⟨⟨⟨out, accepted⟩, hpair⟩, hothers⟩ := hjoins
  obtain ⟨houtcome, hstate⟩ :=
    next_matching hopen htable (List.getElem?_eq_getElem hindex) hpair
  have hanswers (n : Nat) : task.answers (List.replicate (n + 1) .next) =
      .ok (some out) :: (task.after .next).answers (List.replicate n .next) :=
    congrArg (· :: _) houtcome
  have hrows (n : Nat) : 0 < rowsIn (task.answers (List.replicate (n + 1) .next)) := by
    rw [hanswers, rowsIn_cons, rowCount_some]
    omega
  have hafter : task.after .next = ⟨_, false⟩ := congrArg (Task.mk · false) hstate
  by_cases hmore : (accepted && decide (index + 1 < (table.bucket slot).length)) = true
  · have hnext : index + 1 < (table.bucket slot).length := by simp_all
    obtain ⟨n, -, hrun⟩ := exists_run_needLeft hopen htable hnext hothers
    rw [hmore] at hafter
    refine ⟨n + 1, hrows n, ?_⟩
    rw [List.replicate_succ, Task.run, List.foldl_cons, hafter]
    exact hrun
  · rw [Bool.not_eq_true] at hmore
    rw [hmore] at hafter
    exact ⟨1, hrows 0, hafter⟩
termination_by (table.bucket slot).length - index

theorem eq_finished {phase : Phase} (h : isFinished phase = true) : phase = .finished := by
  cases phase with
  | finished => rfl
  | needLeft | matching => cases h

section

variable {s : State left.State right.State} {input : left.State}

/-- The state of a join that has turned to the next left row. -/
def turned (s : State left.State right.State) (input : left.State) : State left.State right.State :=
  { s with left := input, phase := .needLeft }

/-- In the middle of a bucket, a join that turns to the next left row would have to hand out the
rows of the bucket for ever to answer as before. -/
theorem not_alike_turned_matching (hopen : s.closed = false) (htable : s.build.table = some table)
    {slot index : Nat} (hphase : s.phase = .matching row slot index)
    (hindex : index < (table.bucket slot).length) (hjoins : JoinsOn plan s)
    (hinput : Alike (⟨input, false⟩ : Task left) (⟨s.left, false⟩ : Task left)) :
    ¬ Alike (⟨turned s input, false⟩ : Task (left.leftJoin right plan))
      (⟨s, false⟩ : Task (left.leftJoin right plan)) := by
  intro halike
  have hself : { s with phase := .matching row slot index } = s := by rw [← hphase]
  obtain ⟨n, hrows, hrun⟩ :=
    exists_run_needLeft hopen htable hindex (hjoins row slot index table hphase htable)
  rw [hself] at hrows hrun
  have hsame : LeftAlike (turned s input) { s with phase := .needLeft } :=
    ⟨hinput, rfl, rfl, rfl, rfl⟩
  have hround : Alike ((⟨s, false⟩ : Task (left.leftJoin right plan)).run (List.replicate n .next))
      (⟨s, false⟩ : Task (left.leftJoin right plan)) := by
    rw [hrun]
    exact (hsame.alike false).symm.trans halike
  exact Nat.ne_of_gt hrows hround.rowsIn_eq_zero

/-- A join that had answered its end asks its left input once more. -/
theorem alike_turned_finished_iff (plan : JoinPlan) (hopen : s.closed = false)
    (htable : s.build.table = some table) (hfilled : table.Filled) (hphase : s.phase = .finished)
    (hinput : Alike (⟨input, false⟩ : Task left) (⟨s.left, false⟩ : Task left)) :
    Alike (⟨turned s input, false⟩ : Task (left.leftJoin right plan))
        (⟨s, false⟩ : Task (left.leftJoin right plan)) ↔
      (left.next false s.left).outcome = .ok none := by
  have hasked : (left.next false input).outcome = (left.next false s.left).outcome := hinput.next.1
  constructor
  · intro halike
    have hready : next plan left right false (turned s input) =
        withTable plan table left false (turned s input) :=
      next_ready (by simp [turned, hopen, isFinished]) htable
    have hfinished : next plan left right false s = ⟨.ok none, s, []⟩ :=
      next_idle (by simp [hphase, isFinished])
    have hpull : (pullLeft plan table left false input).outcome = .ok none :=
      calc (pullLeft plan table left false input).outcome
          = (next plan left right false (turned s input)).outcome := by rw [hready]; rfl
        _ = (next plan left right false s).outcome := halike.next.1
        _ = .ok none := by rw [hfinished]
    rw [← hasked]
    exact (pullLeft_end_iff hfilled input).mp hpull
  · intro hend
    have hthere : (turned s input).build.table = some table := htable
    exact alike_of_end hthere rfl (hasked.trans hend) hphase false

/-- A join that turns to the next left row answers as it would have anyway just if it has no more to
say in any case, if it was to take a left row next, or if it had taken the last one. -/
theorem alike_turned_iff (hs : Sound s) (hjoins : JoinsOn plan s)
    (hinput : Alike (⟨input, false⟩ : Task left) (⟨s.left, false⟩ : Task left)) (stopped : Bool) :
    Alike (⟨turned s input, stopped⟩ : Task (left.leftJoin right plan))
        (⟨s, stopped⟩ : Task (left.leftJoin right plan)) ↔
      stopped = true ∨ s.closed = true ∨ s.phase = .needLeft ∨
        s.phase = .finished ∧ (left.next false s.left).outcome = .ok none := by
  by_cases hidle : stopped = true ∨ s.closed = true
  · exact ⟨fun _ => or_assoc.mp (.inl hidle), fun _ => alike_of_idle hidle hidle⟩
  obtain ⟨hstopped, hopen⟩ := not_or.mp hidle
  rw [Bool.not_eq_true] at hstopped hopen
  subst hstopped
  cases hphase : s.phase with
  | needLeft =>
    have hsame : LeftAlike (turned s input) s := ⟨hinput, rfl, rfl, hphase.symm, rfl⟩
    simp only [true_or, or_true, iff_true]
    exact hsame.alike false
  | finished =>
    obtain ⟨table, htable, hfilled, -⟩ := hs.exists_table hopen (by simp [hphase])
    have hiff := alike_turned_finished_iff plan hopen htable hfilled hphase hinput
    simpa [hopen] using hiff
  | matching row slot index =>
    obtain ⟨table, htable, -, hwithin⟩ := hs.exists_table hopen (by simp [hphase])
    rw [hphase] at hwithin
    cases hwithin with
    | matching hindex =>
      have hnot := not_alike_turned_matching hopen htable hphase hindex hjoins hinput
      simpa [hopen] using hnot

end

end Join

namespace Operator

variable {child left : Operator}

/-- A new start that fails, of a limit or a join over inputs that are left where they were. The
limit answers as it would have anyway just if it had handed out nothing since its last start, or if
its input answers the same without it. The join, if it can join its current left row with the
partners still to come, does so just if it was closed or stopped, if it was to take a left row next,
or if it had taken the last one. -/
theorem failed_rescan_unnoticed (hchild : child.FailsInPlace) (hleft : left.FailsInPlace)
    (count : Nat) (right : Operator) (plan : JoinPlan) (commands : List Command) {e : Failure} :
    let limited := (Task.start (child.limit count)).run commands
    let joined := (Task.start (left.leftJoin right plan)).run commands
    (((child.limit count).rescan limited.state).outcome = .error e →
      (Alike (limited.after .rescan) limited ↔ limited.state.emitted = 0 ∨
        Alike limited (⟨limited.state.input, limited.stopped⟩ : Task child))) ∧
    (((left.leftJoin right plan).rescan joined.state).outcome = .error e →
      Join.JoinsOn plan joined.state →
      (Alike (joined.after .rescan) joined ↔ joined.stopped = true ∨ joined.state.closed = true ∨
        joined.state.phase = .needLeft ∨
        joined.state.phase = .finished ∧
          (left.next false joined.state.left).outcome = .ok none)) := by
  intro limited joined
  constructor
  · intro he
    exact Limit.alike_reset_iff (Limit.emitted_run commands)
      (hchild limited.state.input e he limited.stopped)
  · intro he hjoins
    exact Join.alike_turned_iff (Join.sound_run commands) hjoins
      (hleft joined.state.left e he false) joined.stopped

/-- A limit that has handed out nothing, and a join that has answered its end. -/
theorem failed_rescan_unnoticed_integers :
    let script := Script.unrepeatable "a" [1]
    let right := Operator.scan (.ofIntegers "b" [1, 1])
    let condition := Expr.binary .equal (.column 0 .integer "a") (.column 1 .integer "b") .boolean
    let plan : JoinPlan := ⟨script.schema ++ right.schema, condition, none,
      .identity (script.schema ++ right.schema), [0], [0], 1⟩
    let limit := (Operator.scripted script).limit 1
    let join := (Operator.scripted script).leftJoin right plan
    let ended := (Task.start join).run [.next, .next, .next]
    (limit.rescan limit.start).outcome = .error (.internal "start failed") ∧
      Alike ((Task.start limit).after .rescan) (Task.start limit) ∧
      (join.rescan ended.state).outcome = .error (.internal "start failed") ∧
      Alike (ended.after .rescan) ended := by
  intro script right condition plan limit join ended
  have hscript : (Operator.scripted script).FailsInPlace := .scripted script
  have hlimit : (limit.rescan limit.start).outcome = .error (.internal "start failed") := rfl
  have hjoin : (join.rescan ended.state).outcome = .error (.internal "start failed") := rfl
  have hphase : ended.state.phase = .finished := Join.eq_finished (by decide +kernel)
  have hend : ((Operator.scripted script).next false ended.state.left).outcome = .ok none := by
    decide +kernel
  have hjoins : Join.JoinsOn plan ended.state := by
    intro row slot index table hmatching
    rw [hphase] at hmatching
    cases hmatching
  have hlimited := (failed_rescan_unnoticed hscript hscript 1 right plan []).1 hlimit
  have hjoined :=
    (failed_rescan_unnoticed hscript hscript 1 right plan [.next, .next, .next]).2 hjoin hjoins
  exact ⟨hlimit, hlimited.mpr (.inl rfl), hjoin,
    hjoined.mpr (.inr (.inr (.inr ⟨hphase, hend⟩)))⟩

/-- A limit that has handed out its row hands out another one, and a join loses the second partner
of its left row. -/
theorem not_failed_rescan_unnoticed_integers :
    let script := Script.unrepeatable "a" [1, 2]
    let right := Operator.scan (.ofIntegers "b" [1, 1])
    let condition := Expr.binary .equal (.column 0 .integer "a") (.column 1 .integer "b") .boolean
    let plan : JoinPlan := ⟨script.schema ++ right.schema, condition, none,
      .identity (script.schema ++ right.schema), [0], [0], 1⟩
    let limited := (Task.start ((Operator.scripted script).limit 1)).run [.next]
    let joined := (Task.start ((Operator.scripted script).leftJoin right plan)).run [.next]
    JoinPlan.make script.schema right.schema condition none = .ok plan ∧
      (Operator.scripted script).FailsInPlace ∧
      (((Operator.scripted script).limit 1).rescan limited.state).outcome =
        .error (.internal "start failed") ∧
      limited.answers [.next] = [.ok none] ∧
      (limited.after .rescan).answers [.next] = [.ok (some [.integer 2])] ∧
      (((Operator.scripted script).leftJoin right plan).rescan joined.state).outcome =
        .error (.internal "start failed") ∧
      joined.answers [.next] = [.ok (some [.integer 1, .integer 1])] ∧
      (joined.after .rescan).answers [.next] = [.ok (some [.integer 2, .null])] := by
  intro script right condition plan limited joined
  exact ⟨rfl, .scripted script, rfl, by decide +kernel, by decide +kernel, rfl, by decide +kernel,
    by decide +kernel⟩

end Operator

end RowEngine
