import RowEngine.Proofs.Join.Stream
import RowEngine.Proofs.Operator.Retry

/-!
# Joins whose right input fails

The first request drains the right input into a table. If the right input fails on the way, the rows
taken so far are gone, and since the input goes on from where it stands, the next request drains
only what is left of it. So the join is a join with the rows that come after the last failure, and
starting over does not bring the others back.
-/

namespace RowEngine

namespace Script

/-- The number of rows that the first requests hand out, if the script is never started over. -/
def handedOut (script : Script) : Nat → Nat
  | 0 => 0
  | n + 1 =>
    if (script.pullFault n).isSome then script.handedOut n
    else min (script.handedOut n + 1) script.rows.length

/-- From a request on, none fails up to the one that is answered with the end. -/
def Quiet (script : Script) (n : Nat) : Prop :=
  ∀ k, n ≤ k → k ≤ n + (script.rows.length - script.handedOut n) → script.pullFault k = none

structure Settles (script : Script) (n : Nat) : Prop where
  quiet : script.Quiet n
  first : ∀ m < n, ¬ script.Quiet m

/-- The script has not been started over. -/
def Straight (script : Script) (s : State) : Prop := s.cursor = script.handedOut s.pulls

/-- An attempt at draining the script that fails goes from one state to a later one, and the script
could not be drained from any request on the way. -/
structure Attempt (script : Script) (s t : State) : Prop where
  straight : script.Straight t
  later : s.pulls < t.pulls
  unquiet : ∀ m, s.pulls ≤ m → m < t.pulls → ¬ script.Quiet m

variable {script : Script} {n m : Nat} {s : State}

theorem Straight.cursor_eq (hs : script.Straight s) : s.cursor = script.handedOut s.pulls := hs

/-- There is one such request at most. -/
theorem Settles.eq (hn : script.Settles n) (hm : script.Settles m) : n = m := by
  rcases Nat.lt_trichotomy n m with h | h | h
  · exact absurd hn.quiet (hm.first n h)
  · exact h
  · exact absurd hm.quiet (hn.first m h)

theorem quiet_of_end (hfault : script.pullFault n = none)
    (hall : script.rows.length ≤ script.handedOut n) : script.Quiet n := by
  intro k hle hk
  obtain rfl : n = k := by omega
  exact hfault

/-- Handing out a row leaves the last request to look at where it is. -/
theorem quiet_succ (hfault : script.pullFault n = none)
    (hmore : script.handedOut n < script.rows.length) :
    script.Quiet (n + 1) ↔ script.Quiet n := by
  have hcount : script.handedOut (n + 1) = script.handedOut n + 1 := by
    simp only [handedOut, hfault, Option.isSome_none, Bool.false_eq_true, if_false]
    omega
  unfold Quiet
  rw [hcount]
  constructor
  · intro h k hle hk
    rcases Nat.eq_or_lt_of_le hle with rfl | hlt
    · exact hfault
    · exact h k hlt (by omega)
  · intro h k hle hk
    exact h k (by omega) (by omega)

theorem Straight.fault (hs : script.Straight s) {e : Failure}
    (h : script.pullFault s.pulls = some e) :
    script.Straight { s with pulls := s.pulls + 1 } := by
  simpa [Straight, handedOut, h] using hs

theorem Straight.row (hs : script.Straight s) (h : script.pullFault s.pulls = none)
    (hrow : s.cursor < script.rows.length) :
    script.Straight { s with pulls := s.pulls + 1, cursor := s.cursor + 1 } := by
  simp only [Straight] at hs ⊢
  simp only [handedOut, h, Option.isSome_none, Bool.false_eq_true, if_false]
  omega

/-- All rows behind the cursor are still to come, and none of the requests for them fails. -/
def QuietAt (script : Script) (s : State) (rest : List Row) : Prop :=
  script.Straight s ∧ script.Quiet s.pulls ∧ rest = script.rows.drop s.cursor

/-- A script that is quiet from where it stands hands out all rows that are left of it. -/
theorem streams_quiet (script : Script) :
    (Operator.scripted script).Streams script.QuietAt fun _ => True := by
  constructor
  · rintro s row rest ⟨hs, hquiet, hrest⟩
    have hfault := hquiet s.pulls (Nat.le_refl _) (Nat.le_add_right _ _)
    have hrow : script.rows[s.cursor]? = some row := by
      rw [← List.head?_drop, ← hrest]
      rfl
    have hlt := (List.getElem?_eq_some_iff.mp hrow).1
    have hstep : (Operator.scripted script).next false s = _ := next_row hfault hrow
    rw [hstep]
    refine ⟨rfl, hs.row hfault hlt, (quiet_succ hfault ?_).mpr hquiet, ?_⟩
    · rwa [← hs.cursor_eq]
    · rw [← List.tail_drop, ← hrest]
      rfl
  · rintro s ⟨hs, hquiet, hrest⟩
    have hfault := hquiet s.pulls (Nat.le_refl _) (Nat.le_add_right _ _)
    have hrow : script.rows[s.cursor]? = none := by
      rw [← List.head?_drop, ← hrest]
      rfl
    have hstep : (Operator.scripted script).next false s = _ := next_end hfault hrow
    rw [hstep]
    exact ⟨rfl, trivial⟩

/-- Draining a script fails unless it is quiet. The recursion is on the rows that are handed out
before the failure. -/
theorem fold_unquiet {β : Type} {f : β → Row → Except Failure β}
    (hf : ∀ acc, ∀ row ∈ script.rows, ∃ acc', f acc row = .ok acc') (acc : β) {s : State}
    (hs : script.Straight s) (hunquiet : ¬ script.Quiet s.pulls) :
    (∃ e, ((Operator.scripted script).fold false f acc s).outcome = .error e) ∧
      script.Attempt s ((Operator.scripted script).fold false f acc s).state := by
  cases hfault : script.pullFault s.pulls with
  | some e =>
    have hstep : (Operator.scripted script).next false s = _ := next_fault hfault
    rw [Operator.fold_error f acc (congrArg Step.outcome hstep), hstep]
    refine ⟨⟨e, rfl⟩, hs.fault hfault, Nat.lt_succ_self _, ?_⟩
    intro m hle hlt
    obtain rfl : s.pulls = m := Nat.le_antisymm hle (Nat.le_of_lt_succ hlt)
    exact hunquiet
  | none =>
    cases hrow : script.rows[s.cursor]? with
    | none =>
      have hall : script.rows.length ≤ script.handedOut s.pulls := by
        rw [← hs.cursor_eq]
        exact List.getElem?_eq_none_iff.mp hrow
      exact absurd (quiet_of_end hfault hall) hunquiet
    | some row =>
      have hlt := (List.getElem?_eq_some_iff.mp hrow).1
      have hmore : script.handedOut s.pulls < script.rows.length := by
        rwa [← hs.cursor_eq]
      have hstep : (Operator.scripted script).next false s = _ := next_row hfault hrow
      obtain ⟨acc', hacc⟩ := hf acc row (List.mem_of_getElem? hrow)
      obtain ⟨hfails, hstraight, hlater, hall⟩ := fold_unquiet hf acc' (hs.row hfault hlt)
        (mt (quiet_succ hfault hmore).mp hunquiet)
      rw [Operator.fold_row (congrArg Step.outcome hstep) hacc, hstep]
      refine ⟨hfails, hstraight, Nat.lt_of_succ_lt hlater, ?_⟩
      intro m hle hlt
      rcases Nat.eq_or_lt_of_le hle with rfl | hless
      · exact hunquiet
      · exact hall m hless hlt
termination_by script.rows.length - s.cursor
decreasing_by omega

/-- Nothing has been kept of the rows so far, and draining the script from any request before would
have failed. -/
structure Unsettled (script : Script) (rights : List Row) (s : State) (rest : List Row) : Prop where
  straight : script.Straight s
  early : ∀ m < s.pulls, ¬ script.Quiet m
  rest : rest = rights

theorem Attempt.unsettled {t : State} (h : script.Attempt s t) {rights rest : List Row}
    (hs : script.Unsettled rights s rest) : script.Unsettled rights t rest := by
  refine ⟨h.straight, ?_, hs.rest⟩
  intro m hm
  rcases Nat.lt_or_ge m s.pulls with hlt | hge
  · exact hs.early m hlt
  · exact h.unquiet m hge hm

end Script

namespace Join

variable {left : Operator} {script : Script} {plan : JoinPlan} {condition : Expr}
  {targets : Option (List Target)} {pairs : List (Nat × Nat)} {t : Script.State}
  {build : BuildSide}

/-- A request that cannot drain the right input fails, and only the right input moves on. -/
theorem next_unquiet (hplan : plan.Joins left.schema script.schema condition targets pairs)
    (hrights : ∀ r ∈ script.rows, r.length = script.schema.size)
    (input : left.State) (hkeys : build.keyColumns = plan.rightKeys) (hnone : build.table = none)
    (ht : script.Straight t) (hunquiet : ¬ script.Quiet t.pulls) :
    ∃ e t', (next plan left (.scripted script) false ⟨input, t, build, .needLeft, false⟩).outcome =
        .error e ∧
      (next plan left (.scripted script) false ⟨input, t, build, .needLeft, false⟩).state =
        ⟨input, t', build, .needLeft, false⟩ ∧ script.Attempt t t' := by
  have hadd : ∀ b, ∀ row ∈ script.rows, ∃ b', Buildup.add build.keyColumns b row = .ok b' := by
    intro b row hrow
    have hcolumns : ∀ i ∈ build.keyColumns, i < row.length := by
      rw [hkeys, hrights row hrow]
      exact hplan.rightKeys_lt
    exact ⟨_, by rw [Buildup.add, keyOf_eq_pick hcolumns]⟩
  obtain ⟨⟨e, he⟩, hattempt⟩ := Script.fold_unquiet hadd .empty ht hunquiet
  refine ⟨e, _, ?_, ?_, hattempt⟩
  all_goals simp [next, hnone, isFinished, BuildSide.load, he]

variable {lefts rights out : List Row} {AtLeft : left.State → List Row → Prop}

/-- Whatever fails on the way, the rows of the join are those of the first table that is built. -/
theorem retries (hplan : plan.Joins left.schema script.schema condition targets pairs)
    (hleft : left.Replays lefts AtLeft) (hlefts : ∀ l ∈ lefts, l.length = left.schema.size)
    (hrows : ∀ r ∈ script.rows, r.length = script.schema.size)
    (hrights : ∀ r ∈ rights, r ∈ script.rows)
    (hsettles : ∀ n, script.Settles n → rights = script.rows.drop (script.handedOut n))
    (hout : plan.rows rights lefts = .ok out) :
    (left.leftJoin (.scripted script) plan).Retries out
      (Owing plan rights AtLeft (AtLeft · []) (script.Unsettled rights)) := by
  have hfull : ∀ r ∈ rights, r.length = script.schema.size := fun r hr => hrows r (hrights r hr)
  constructor
  · intro s rest hs
    cases hs with
    | @unloaded input t build _ hkeys hnone ht howes =>
      by_cases hquiet : script.Quiet t.pulls
      · have hkept : script.QuietAt t rights := by
          refine ⟨ht.straight, hquiet, ?_⟩
          rw [hsettles t.pulls ⟨hquiet, ht.early⟩, ← ht.straight.cursor_eq]
        exact .inl (next_loads hplan hleft.streams script.streams_quiet hfull hkeys hnone hkept
          howes)
      · obtain ⟨e, t', houtcome, hstate, hattempt⟩ :=
          next_unquiet hplan hrows input hkeys hnone ht.straight hquiet
        refine .inr ⟨e, houtcome, ?_⟩
        show Owing _ _ _ _ _ (next _ _ _ _ _).state _
        rw [hstate]
        exact .unloaded hkeys hnone (hattempt.unsettled ht) howes
    | loaded hbuild htable howes =>
      exact .inl (next_loaded hplan hleft.streams hfull hbuild htable howes)
  · refine .unloaded rfl rfl ⟨rfl, ?_, rfl⟩ fun _ => .needLeft hleft.start hlefts hout
    intro m hm
    exact absurd hm (Nat.not_lt_zero m)
  · intro s rest hs
    exact (hs.rescan hleft hlefts hout).2

/-- Asking again and again comes to the request from which the right input can be drained, before
any left row is taken. -/
theorem exists_run_settled (hplan : plan.Joins left.schema script.schema condition targets pairs)
    (hrows : ∀ r ∈ script.rows, r.length = script.schema.size)
    {input : left.State} (hkeys : build.keyColumns = plan.rightKeys) (hnone : build.table = none)
    {n : Nat} (hn : script.Settles n) {t : Script.State} (ht : script.Straight t)
    (hle : t.pulls ≤ n) (session : Operator.Session (left.leftJoin (.scripted script) plan))
    (hs : session.state = ⟨input, t, build, .needLeft, false⟩) :
    ∃ k t', script.Straight t' ∧ t'.pulls = n ∧
      session.run (List.replicate k .next) =
        ⟨⟨input, t', build, .needLeft, false⟩, session.seen⟩ := by
  rcases Nat.eq_or_lt_of_le hle with heq | hlt
  · refine ⟨0, t, ht, heq, ?_⟩
    rw [← hs]
    rfl
  · obtain ⟨e, t₁, houtcome, hstate, hattempt⟩ :=
      next_unquiet hplan hrows input hkeys hnone ht (hn.first t.pulls hlt)
    have hle₁ : t₁.pulls ≤ n := by
      by_contra hgt
      exact hattempt.unquiet n (Nat.le_of_lt hlt) (Nat.lt_of_not_le hgt) hn.quiet
    have hlater := hattempt.later
    have hafter : session.after .next =
        ⟨⟨input, t₁, build, .needLeft, false⟩, session.seen⟩ := by
      rw [← hs] at houtcome hstate
      exact (Operator.Session.after_next_error houtcome).trans
        (congrArg (Operator.Session.mk · session.seen) hstate)
    obtain ⟨k, t', ht', hpulls, hrun⟩ := exists_run_settled hplan hrows hkeys hnone hn
      hattempt.straight hle₁ (session.after .next) (by rw [hafter])
    refine ⟨k + 1, t', ht', hpulls, ?_⟩
    rw [List.replicate_succ, Operator.Session.run, List.foldl_cons]
    rw [hafter] at hrun ⊢
    exact hrun
termination_by n - t.pulls
decreasing_by omega

end Join

namespace JoinPlan

/-- Nothing fails on the pairs of some rows, nor where a left row is padded. -/
structure Defined (plan : JoinPlan) (rights lefts : List Row) : Prop where
  admits : ∀ l ∈ lefts, ∀ r ∈ rights, ∃ b, plan.admits l r = .ok b
  output : ∀ l ∈ lefts, ∀ r ∈ rights, ∃ row, plan.output l r = .ok row
  padding : ∀ l ∈ lefts, ∃ row, plan.padding l = .ok row

/-- A table of fewer right rows cannot make the answer fail. -/
theorem Defined.exists_rows {plan : JoinPlan} {rights lefts kept : List Row}
    (h : plan.Defined rights lefts) (hkept : ∀ r ∈ kept, r ∈ rights) :
    ∃ out, plan.rows kept lefts = .ok out := by
  have hanswers : ∀ l ∈ lefts, ∃ out, plan.answer kept l = .ok out := fun l hl =>
    exists_answer (fun r hr => h.admits l hl r (hkept r hr))
      (fun r hr => h.output l hl r (hkept r hr)) (h.padding l hl)
  obtain ⟨answers, hall⟩ := exists_mapM hanswers
  exact ⟨answers.flatten, map_eq_ok.mpr ⟨answers, hall, rfl⟩⟩

end JoinPlan

namespace Operator

variable {left : Operator} {script : Script} {plan : JoinPlan} {condition : Expr}
  {targets : Option (List Target)} {lefts : List Row} {AtLeft : left.State → List Row → Prop}

/-- The rows received since the last start, after some requests to a join with a script. -/
def received (left : Operator) (script : Script) (plan : JoinPlan) (requests : List Request) :
    List Row :=
  ((Session.start (left.leftJoin (.scripted script) plan)).run requests).seen

/-- All rows of the first table that is built are received if they are asked for. -/
theorem exists_received
    (hplan : JoinPlan.make left.schema script.schema condition targets = .ok plan)
    (hleft : left.Replays lefts AtLeft) (hlefts : ∀ l ∈ lefts, l.length = left.schema.size)
    (hrows : ∀ r ∈ script.rows, r.length = script.schema.size) {n : Nat} (hn : script.Settles n)
    {kept : List Row}
    (hkept : plan.rows (script.rows.drop (script.handedOut n)) lefts = .ok kept) :
    ∃ requests, received left script plan requests = kept := by
  obtain ⟨pairs, hjoins⟩ := JoinPlan.joins_of_make hplan
  obtain ⟨k, t, ht, hpulls, hrun⟩ := Join.exists_run_settled hjoins hrows rfl rfl hn
    (t := ⟨0, 0, 0, 0⟩) rfl (Nat.zero_le n) (Session.start _) rfl
  have hrights : ∀ r ∈ script.rows.drop (script.handedOut n), r.length = script.schema.size :=
    fun r hr => hrows r (List.mem_of_mem_drop hr)
  have hquiet : script.QuietAt t (script.rows.drop (script.handedOut n)) := by
    refine ⟨ht, ?_, ?_⟩
    · rw [hpulls]
      exact hn.quiet
    · rw [ht.cursor_eq, hpulls]
  have hstreams := Streams.leftJoin hjoins hleft.streams script.streams_quiet hrights
  let settled :=
    (Session.start (left.leftJoin (.scripted script) plan)).run (List.replicate k .next)
  have howes : Join.Owing plan (script.rows.drop (script.handedOut n)) AtLeft (AtLeft · [])
      script.QuietAt settled.state kept := by
    rw [show settled = _ from hrun]
    exact .unloaded rfl rfl hquiet fun _ => .needLeft hleft.start hlefts hkept
  have hseen : settled.seen = [] := by
    rw [show settled = _ from hrun]
    rfl
  refine ⟨List.replicate k .next ++ List.replicate kept.length .next, ?_⟩
  rw [received, Session.run, List.foldl_append]
  exact (hstreams.run_next settled howes).trans (by rw [hseen, List.nil_append])

/-- A join whose right input fails at some requests hands out the join with those right rows that
come after the last failed attempt at building its table: the first rows of this join at any time,
and all of them if they are asked for. So what it hands out is the beginning of the whole join just
if that join is, as it is if no right row came before. -/
theorem leftJoin_retries
    (hplan : JoinPlan.make left.schema script.schema condition targets = .ok plan)
    (hleft : left.Replays lefts AtLeft) (hlefts : ∀ l ∈ lefts, l.length = left.schema.size)
    (hrows : ∀ r ∈ script.rows, r.length = script.schema.size)
    (hdefined : plan.Defined script.rows lefts) :
    ∃ complete, plan.rows script.rows lefts = .ok complete ∧
      (∀ n, script.Settles n → ∃ kept,
        plan.rows (script.rows.drop (script.handedOut n)) lefts = .ok kept ∧
          (∀ requests, received left script plan requests <+: kept) ∧
          (∃ requests, received left script plan requests = kept) ∧
          (script.handedOut n = 0 → kept = complete)) ∧
      ((∀ requests, received left script plan requests <+: complete) ↔
        ∀ n kept, script.Settles n →
          plan.rows (script.rows.drop (script.handedOut n)) lefts = .ok kept →
            kept <+: complete) := by
  obtain ⟨pairs, hjoins⟩ := JoinPlan.joins_of_make hplan
  obtain ⟨complete, hcomplete⟩ := hdefined.exists_rows fun _ hr => hr
  have hdrop : ∀ n, ∀ r ∈ script.rows.drop n, r ∈ script.rows :=
    fun n r hr => List.mem_of_mem_drop hr
  have hwithin : ∀ n kept, script.Settles n →
      plan.rows (script.rows.drop (script.handedOut n)) lefts = .ok kept →
        ∀ requests, received left script plan requests <+: kept := by
    intro n kept hn hkept
    refine (Join.retries hjoins hleft hlefts hrows (hdrop _) ?_ hkept).seen
    intro m hm
    rw [hm.eq hn]
  refine ⟨complete, hcomplete, ?_, ?_⟩
  · intro n hn
    obtain ⟨kept, hkept⟩ := hdefined.exists_rows (hdrop (script.handedOut n))
    refine ⟨kept, hkept, hwithin n kept hn hkept,
      exists_received hplan hleft hlefts hrows hn hkept, ?_⟩
    intro hnone
    rw [hnone, List.drop_zero, hcomplete] at hkept
    exact (Except.ok.inj hkept).symm
  · constructor
    · intro hall n kept hn hkept
      obtain ⟨requests, hreceived⟩ := exists_received hplan hleft hlefts hrows hn hkept
      rw [← hreceived]
      exact hall requests
    · intro hkept
      by_cases hsettles : ∃ n, script.Settles n
      · obtain ⟨n, hn⟩ := hsettles
        obtain ⟨kept, hrowsKept⟩ := hdefined.exists_rows (hdrop (script.handedOut n))
        intro requests
        exact (hwithin n kept hn hrowsKept requests).trans (hkept n kept hn hrowsKept)
      · -- No table is ever built, so any rows will do as those it would hold.
        refine (Join.retries hjoins hleft hlefts hrows (fun _ hr => hr) ?_ hcomplete).seen
        intro n hn
        exact absurd ⟨n, hn⟩ hsettles

/-- A right input that fails before its first row: nothing is lost. -/
theorem leftJoin_retries_integers :
    let left := Operator.scan (.ofIntegers "a" [1])
    let script := Script.failingAt 0 "b" [1]
    let condition := Expr.binary .equal (.column 0 .integer "a") (.column 1 .integer "b") .boolean
    let plan : JoinPlan := ⟨left.schema ++ script.schema, condition, none,
      .identity (left.schema ++ script.schema), [0], [0], 1⟩
    script.Settles 1 ∧ script.handedOut 1 = 0 ∧
      ∀ requests, received left script plan requests <+: [[.integer 1, .integer 1]] := by
  intro left script condition plan
  have hplan : JoinPlan.make left.schema script.schema condition none = .ok plan := rfl
  have hsettles : script.Settles 1 := by
    constructor
    · intro k hle _
      exact if_neg (by omega)
    · intro m hm hquiet
      have hfault := hquiet 0 (by omega) (Nat.zero_le _)
      cases hfault
  have hdefined : plan.Defined script.rows [[.integer 1]] := by
    constructor <;> simp only [List.forall_mem_singleton]
    · rintro r (_ | ⟨_, ⟨⟩⟩)
      exact ⟨true, rfl⟩
    · rintro r (_ | ⟨_, ⟨⟩⟩)
      exact ⟨[.integer 1, .integer 1], rfl⟩
    · exact ⟨[.integer 1, .null], rfl⟩
  obtain ⟨complete, hcomplete, hkept, -⟩ := leftJoin_retries hplan
    (Replays.scan (.ofIntegers "a" [1])) (Relation.full _) (Relation.full (.ofIntegers "b" [1]))
    hdefined
  obtain ⟨kept, -, hreceived, -, hsame⟩ := hkept 1 hsettles
  have hrows : complete = [[.integer 1, .integer 1]] := (Except.ok.inj hcomplete).symm
  refine ⟨hsettles, rfl, ?_⟩
  rw [← hrows, ← hsame rfl]
  exact hreceived

/-- A right input that fails after its only row: the left row has lost its partner, whether the join
is started over or not. -/
theorem not_leftJoin_retries_integers :
    let left := Operator.scan (.ofIntegers "a" [1])
    let script := Script.failingAt 1 "b" [1]
    let condition := Expr.binary .equal (.column 0 .integer "a") (.column 1 .integer "b") .boolean
    let plan : JoinPlan := ⟨left.schema ++ script.schema, condition, none,
      .identity (left.schema ++ script.schema), [0], [0], 1⟩
    JoinPlan.make left.schema script.schema condition none = .ok plan ∧
      plan.rows script.rows [[.integer 1]] = .ok [[.integer 1, .integer 1]] ∧
      received left script plan [.next, .next] = [[.integer 1, .null]] ∧
      received left script plan [.next, .rescan, .next] = [[.integer 1, .null]] ∧
      ¬ received left script plan [.next, .rescan, .next] <+: [[.integer 1, .integer 1]] := by
  intro left script condition plan
  have hlost : received left script plan [.next, .rescan, .next] = [[.integer 1, .null]] := by
    decide +kernel
  refine ⟨rfl, rfl, by decide +kernel, hlost, ?_⟩
  rw [hlost]
  decide

end Operator

end RowEngine
