import RowEngine.Proofs.Join.Condition
import RowEngine.Proofs.Join.Failing
import RowEngine.Proofs.Join.Passes

/-!
# Which rows of a join are padded

Partners have the same values in the key columns, so the quals of a plan are true on them, whatever
these values are. A pair is therefore padded only if the filter refuses it, and this ends the left
row: a left row is padded once at most, and its padded row is its last one.
-/

namespace RowEngine

open Operator

/-- All rows that an operator can hand out, whatever it is told, are as wide as its schema. -/
def Operator.Full (op : Operator) : Prop :=
  ∃ Inv, op.Serves (·.length = op.schema.size) (fun _ => True) Inv

theorem Operator.Full.scan {relation : Relation}
    (h : ∀ row ∈ relation.rows, row.length = relation.schema.size) :
    (Operator.scan relation).Full :=
  ⟨_, .scan h⟩

theorem hasNull_canonKey (key : List Value) : hasNull (canonKey key) = hasNull key := by
  simp [hasNull, canonKey, Function.comp_def]

theorem hasNull_of_sameKey {key other : List Value} (h : sameKey key other = true) :
    hasNull other = hasNull key := by
  rw [← hasNull_canonKey key, (sameKey_iff key other).mp h, hasNull_canonKey]

theorem Value.eq_of_isTrue {v : Value} (h : v.isTrue = true) : v = .boolean true := by
  cases v <;> simp_all [isTrue]

namespace JoinPlan

variable {plan : JoinPlan} {left right : Schema} {condition : Expr}
  {targets : Option (List Target)} {pairs : List (Nat × Nat)}

theorem links_of_sameKey {row partner : Row} {key other : List Value}
    (hkey : keyOf row plan.leftKeys = .ok key) (hother : keyOf partner plan.rightKeys = .ok other)
    (hnull : hasNull key = false) (hsame : sameKey key other = true) :
    plan.links row partner = true := by
  obtain ⟨-, rfl⟩ := keyOf_eq_ok.mp hkey
  obtain ⟨-, rfl⟩ := keyOf_eq_ok.mp hother
  simp [links, belongs, hnull, hsame, hasNull_of_sameKey hsame]

/-- The quals of a plan are true on rows with the same key. -/
theorem Joins.eval_qual (h : plan.Joins left right condition targets pairs) (schema : Schema)
    {f : Frame} (hleft : f.left.length = left.size) (hright : f.right.length = right.size)
    (hlinks : plan.links f.left f.right = true) :
    (plan.qual.eval schema f.view).result = .ok (.boolean true) := by
  obtain ⟨v, hv, htrue⟩ := Expr.holds_eq_ok.mp (h.holds_quals_of_links schema hleft hright hlinks)
  rw [hv, Value.eq_of_isTrue htrue]

end JoinPlan

namespace Join

variable {left right : Operator} {plan : JoinPlan} {table : JoinTable} {row partner : Row}
  {slot index : Nat} {stopped : Bool} {em : Emission}

/-- Whatever is in the bucket that is being gone through is a partner of the left row. -/
theorem Probes.links (h : Probes plan table row slot index)
    (hpartner : (table.bucket slot)[index]? = some partner) : plan.links row partner = true := by
  obtain ⟨key, hkey, hnull, -, hbucket⟩ := h.key
  obtain ⟨other, hother, -, hsame⟩ := hbucket partner (List.mem_of_getElem? hpartner)
  exact JoinPlan.links_of_sameKey hkey hother hnull hsame

/-- Where the quals are true, the verdict is that of the filter. -/
theorem result_verdict
    (hqual : (plan.qual.holds plan.input (Frame.mk row partner).view).result = .ok true) :
    (verdict plan row partner).result = (plan.admits row partner).map fun accepted =>
      (if accepted then .joined else .padded, accepted) := by
  unfold verdict JoinPlan.admits
  cases plan.filter with
  | none => simp [Traced.result_bind, hqual, bind, Except.bind, Except.map]
  | some filter =>
    simp only [Traced.bind_eq, Traced.result_bind, hqual]
    cases (filter.holds plan.input (Frame.mk row partner).view).result with
    | error e => rfl
    | ok accepted => simp [bind, Except.bind, Except.map]

/-- A padded row is that of a left row with nulls, a joined row that of a left row and a partner. -/
def Emission.Written (plan : JoinPlan) (em : Emission) : Prop :=
  match em.kind with
  | .padded => plan.padding em.left = .ok em.row
  | .joined => ∃ partner, plan.links em.left partner = true ∧
    plan.output em.left partner = .ok em.row

theorem tryPartner_eq
    (h : (tryPartner plan table row partner slot index).outcome = .ok (some em)) :
    ∃ accepted, (verdict plan row partner).result = .ok (em.kind, accepted) ∧
      (write plan row partner em.kind).result = .ok em.row ∧ em.left = row ∧
      (tryPartner plan table row partner slot index).state = phaseAfter row slot index
        (accepted && decide (index + 1 < (table.bucket slot).length)) := by
  unfold tryPartner at h ⊢
  dsimp only at h ⊢
  split at h
  · cases h
  · rename_i out accepted hout
    obtain rfl := Option.some.inj (Except.ok.inj h)
    have hresult := Traced.outcome_eq_ok.mp hout
    simp only [emission, Traced.bind_eq, Traced.result_bind, bind_eq_ok] at hresult
    obtain ⟨⟨kind, accepted⟩, hverdict, written, hwrite, heq⟩ := hresult
    obtain ⟨rfl, rfl⟩ := Prod.mk.inj (Except.ok.inj heq)
    exact ⟨accepted, hverdict, hwrite, rfl, rfl⟩

theorem alone_eq (h : (alone plan row).outcome = .ok (some em)) :
    em = ⟨row, .padded, em.row⟩ ∧ plan.padding row = .ok em.row ∧
      (alone plan row).state = .needLeft := by
  unfold alone at h ⊢
  dsimp only at h ⊢
  split at h
  · cases h
  · rename_i out hout
    obtain rfl := Option.some.inj (Except.ok.inj h)
    exact ⟨rfl, Traced.outcome_eq_ok.mp hout, rfl⟩

theorem phaseAfter_eq_matching {more : Bool} {row' : Row} {slot' index' : Nat}
    (h : phaseAfter row slot index more = .matching row' slot' index') :
    row' = row ∧ more = true := by
  cases more with
  | false => cases h
  | true =>
    cases h
    exact ⟨rfl, rfl⟩

namespace Answers

variable {answer : Step Phase (Option Emission)}

/-- No other left row is matched after an answer than the one that was answered. -/
theorem row_eq (h : Answers plan table row answer) {row' : Row} {slot' index' : Nat}
    (hphase : answer.state = .matching row' slot' index') : row' = row := by
  cases h with
  | alone =>
    unfold Join.alone at hphase
    dsimp only at hphase
    split at hphase <;> cases hphase
  | partner =>
    unfold tryPartner at hphase
    dsimp only at hphase
    split at hphase
    · cases hphase
    · exact (phaseAfter_eq_matching hphase).1

/-- Where the quals are true on all partners, only a joined row is not the last one of its left
row. -/
theorem emission (h : Answers plan table row answer)
    (hqual : ∀ slot partner, partner ∈ table.bucket slot → plan.links row partner = true →
      (plan.qual.holds plan.input (Frame.mk row partner).view).result = .ok true)
    (hem : answer.outcome = .ok (some em)) :
    em.left = row ∧ em.Written plan ∧ ∀ row' slot' index',
      answer.state = .matching row' slot' index' → em.kind = .joined := by
  cases h with
  | alone =>
    obtain ⟨heq, hpadding, hstate⟩ := alone_eq hem
    rw [heq, hstate]
    exact ⟨rfl, hpadding, by rintro _ _ _ ⟨⟩⟩
  | @partner partner slot index hprobes hpartner =>
    obtain ⟨accepted, hverdict, hwrite, rfl, hstate⟩ := tryPartner_eq hem
    have hlinks := hprobes.links hpartner
    refine ⟨rfl, ?_, fun row' slot' index' hphase => ?_⟩
    · unfold Emission.Written
      cases hkind : em.kind with
      | padded =>
        rw [hkind] at hwrite
        exact hwrite
      | joined =>
        rw [hkind] at hwrite
        exact ⟨partner, hlinks, hwrite⟩
    · -- a partner is left to try only if the filter accepted this one
      obtain ⟨-, hmore⟩ := phaseAfter_eq_matching (hstate.symm.trans hphase)
      rw [Bool.and_eq_true] at hmore
      obtain rfl := hmore.1
      rw [result_verdict (hqual slot partner (List.mem_of_getElem? hpartner) hlinks)] at hverdict
      obtain ⟨accepted, -, heq⟩ := map_eq_ok.mp hverdict
      obtain ⟨hkind, rfl⟩ := Prod.mk.inj heq
      exact hkind.symm

end Answers

section

variable {l r : Schema} {condition : Expr} {targets : Option (List Target)}
  {pairs : List (Nat × Nat)} {InvLeft : left.State → Prop} {InvRight : right.State → Prop}
  {s : State left.State right.State} {step : Step (State left.State right.State) (Option Emission)}

theorem Source.inv {i input : left.State} {phase : Phase}
    (h : Source left stopped i phase row input) :
    (input = i ∧ ∃ slot index, phase = .matching row slot index) ∨
      (input = (left.next stopped i).state ∧ (left.next stopped i).outcome = .ok (some row)) := by
  cases h with
  | matching => exact .inl ⟨rfl, _, _, rfl⟩
  | taken h => exact .inr ⟨rfl, h⟩

/-- The left row of an answer came from the left input. -/
theorem Source.of_holds {Left Right : Row → Prop} {E : Failure → Prop} {input : left.State}
    (h : Source left stopped s.left s.phase row input) (hleft : left.Serves Left E InvLeft)
    (hs : Holds Left Right InvLeft InvRight s) : Left row := by
  rcases h.inv with ⟨-, slot, index, hphase⟩ | ⟨-, hrow⟩
  · exact hs.row row slot index hphase
  · exact hleft.row stopped s.left row hs.left hrow

variable (hjoins : plan.Joins l r condition targets pairs)
  (hleft : left.Serves (·.length = l.size) (fun _ => True) InvLeft)
  (hs : Holds (·.length = l.size) (·.length = r.size) InvLeft InvRight s)

include hjoins hleft hs

/-- If the inputs hand out rows of their widths, a left row goes on being matched only after a
joined row. -/
theorem Replies.emission (h : Replies plan left right stopped s step)
    (hright : ∀ table, step.state.build.table = some table → TableOf (·.length = r.size) table)
    (hem : step.outcome = .ok (some em)) :
    Source left stopped s.left s.phase em.left step.state.left ∧ em.Written plan ∧
      ∀ row slot index, step.state.phase = .matching row slot index →
        row = em.left ∧ em.kind = .joined := by
  cases h with
  | silent hnone => exact absurd hem (hnone em)
  | answer htable hsource hanswer houtcome hphase =>
    have hrow := hsource.of_holds hleft hs
    have hrows := hright _ htable
    obtain ⟨heq, hwritten, hkind⟩ := hanswer.emission
      (fun slot partner hpartner hlinks =>
        hjoins.holds_quals_of_links plan.input hrow (hrows.mem_bucket hpartner) hlinks)
      (houtcome.symm.trans hem)
    rw [hphase, heq]
    exact ⟨hsource, hwritten, fun row' slot' index' h =>
      ⟨hanswer.row_eq h, hkind row' slot' index' h⟩⟩

/-- The quals are true on every partner that a request tries, so the verdict on it is that of the
filter. -/
theorem verdict_of_mem_phases (hstands : Stands plan s) (hsound : Sound s)
    (htable : (next plan left right stopped s).state.build.table = some table)
    (hrows : TableOf (·.length = r.size) table) {n : Nat}
    (h : .matching row slot index ∈ phases plan table left stopped n s.left s.phase)
    (hpartner : (table.bucket slot)[index]? = some partner) :
    (plan.qual.eval plan.input (Frame.mk row partner).view).result = .ok (.boolean true) ∧
      (verdict plan row partner).result = (plan.admits row partner).map fun accepted =>
        (if accepted then .joined else .padded, accepted) := by
  obtain ⟨hprobes, hsource⟩ := mem_phases_of_request hstands hsound htable h
  obtain ⟨input, hsource⟩ := hsource row slot index rfl
  have hrow := hsource.of_holds hleft hs
  have hlinks := (hprobes row slot index rfl).links hpartner
  have hwidth := hrows.mem_bucket (List.mem_of_getElem? hpartner)
  have hqual := hjoins.holds_quals_of_links (f := ⟨row, partner⟩) plan.input hrow hwidth hlinks
  exact ⟨hjoins.eval_qual (f := ⟨row, partner⟩) plan.input hrow hwidth hlinks, result_verdict hqual⟩

end

/-- A join that has put out a row when its left input had been asked for `k` rows: the left row is
still being matched only if the row was a joined one. -/
structure Follows {σ τ : Type} (k : Nat) (em : Emission) (s : State (Recorded σ) τ) : Prop where
  le : k ≤ s.left.asked.count .next
  matching : s.left.asked.count .next = k → ∀ row slot index, s.phase = .matching row slot index →
    row = em.left ∧ em.kind = .joined

theorem le_count_append {k : Nat} {asked : List Command} (h : k ≤ asked.count .next)
    (more : List Command) : k ≤ (asked ++ more).count .next := by
  rw [List.count_append]
  exact Nat.le_trans h (Nat.le_add_right _ _)

namespace Follows

variable {k : Nat} {s : State left.recorded.State right.State}

/-- A left row that is being matched and was not taken just now was being matched before. -/
theorem next (h : Follows k em s) (hstands : Stands plan s) (hsound : Sound s) (stopped : Bool) :
    Follows k em (next plan left.recorded right stopped s).state := by
  obtain ⟨n, hasked⟩ := asked_next left right plan stopped s
  have hle : k ≤ (Join.next plan left.recorded right stopped s).state.left.asked.count .next := by
    rw [hasked]
    exact le_count_append h.le _
  refine ⟨hle, ?_⟩
  obtain ⟨step, -, hstep, hreply⟩ := exists_request hstands hsound stopped 0
  rw [← hstep]
  intro hcount row slot index hphase
  cases hreply with
  | silent hnone hstate =>
    rcases hstate with hfinished | ⟨hsame, hleft⟩
    · cases hfinished.symm.trans hphase
    · exact h.matching (hleft ▸ hcount) row slot index (hsame.symm.trans hphase)
  | answer htable hsource hanswer houtcome hstate =>
    rcases hsource.inv with ⟨hleft, slot', index', hmatching⟩ | ⟨hleft, -⟩
    · obtain ⟨hrow, hkind⟩ := h.matching (hleft ▸ hcount) _ slot' index' hmatching
      exact ⟨(hanswer.row_eq (hstate.symm.trans hphase)).trans hrow, hkind⟩
    · -- a left row that was taken just now has been counted
      have hmore : step.state.left.asked.count .next = s.left.asked.count .next + 1 := by
        rw [hleft]
        exact List.count_append
      have hcount : step.state.left.asked.count .next = k := hcount
      have := h.le
      omega

theorem rescan (h : Follows k em s) : Follows k em (rescan left.recorded right s).state :=
  ⟨le_count_append h.le [.rescan], by rintro _ _ _ _ ⟨⟩⟩

theorem close (h : Follows k em s) : Follows k em (close left.recorded right s).state := by
  unfold Join.close
  split
  · exact h
  · exact ⟨le_count_append h.le [.close], by rintro _ _ _ _ ⟨⟩⟩

end Follows

/-- Whatever the join is told after it has put out a row. -/
theorem Follows.run {k : Nat} {commands : List Command}
    (h : Follows k em (observed left right plan commands).state) (more : List Command) :
    Follows k em (observed left right plan (commands ++ more)).state := by
  induction more generalizing commands with
  | nil => rwa [List.append_nil]
  | cons command more ih =>
    have hstands := stands_observed left.recorded right.recorded plan commands
    have hsound : Sound (observed left right plan commands).state := sound_run commands
    have hafter : Follows k em (observed left right plan (commands ++ [command])).state := by
      rw [← observed_run]
      cases command with
      | next => exact h.next hstands hsound _
      | rescan => exact h.rescan
      | close => exact h.close
      | stop => exact h
    have hrun := ih hafter
    rwa [List.append_assoc] at hrun

/-- The next request is answered with this row. -/
def Writes (task : Task (left.recorded.leftJoin right.recorded plan)) (em : Emission) : Prop :=
  ∃ step, request 2 plan left.recorded right.recorded task.stopped task.state = some step ∧
    step.outcome = .ok (some em)

/-- How many rows the left input has been asked for once the next request is answered. -/
def pulls (task : Task (left.recorded.leftJoin right.recorded plan)) : Nat :=
  (task.after .next).state.left.asked.count .next

theorem answered_iff {task : Task (left.recorded.leftJoin right.recorded plan)}
    (hstands : Stands plan task.state) (hsound : Sound task.state) (out : Row) :
    (next plan left.recorded right.recorded task.stopped task.state).outcome = .ok (some out) ↔
      ∃ em, Writes task em ∧ em.row = out := by
  obtain ⟨step, hrequest, hstep, -⟩ := exists_request hstands hsound task.stopped 0
  rw [← hstep]
  constructor
  · intro h
    obtain ⟨answer, hanswer, hmap⟩ := map_eq_ok.mp h
    obtain ⟨em, rfl, hrow⟩ := Option.map_eq_some_iff.mp hmap
    exact ⟨em, ⟨step, hrequest, hanswer⟩, hrow⟩
  · rintro ⟨em, ⟨step', hrequest', hem⟩, rfl⟩
    obtain rfl := Option.some.inj (hrequest.symm.trans hrequest')
    exact map_eq_ok.mpr ⟨some em, hem, rfl⟩

section

variable {l r : Schema} {condition : Expr} {targets : Option (List Target)}
  {pairs : List (Nat × Nat)} {InvLeft : left.State → Prop} {InvRight : right.State → Prop}
  (hleft : left.Serves (·.length = l.size) (fun _ => True) InvLeft)
  (hright : right.Serves (·.length = r.size) (fun _ => True) InvRight)

include hleft hright

/-- The inputs of a join hand out rows of their widths also while the join is at work. -/
theorem serves_wide (plan : JoinPlan) :
    (left.recorded.leftJoin right.recorded plan).Serves (fun _ => True) (fun _ => True)
      (Ready plan (·.length = l.size) (·.length = r.size) (InvLeft ·.input)
        (InvRight ·.input)) := by
  have hplan : plan.FailsAs (·.length = l.size) (·.length = r.size) fun _ => True := by
    constructor <;> intros <;> exact fun _ _ => trivial
  exact hleft.recorded.leftJoin hright.recorded hplan (fun _ _ _ _ _ _ => trivial)
    fun _ _ _ _ => trivial

theorem Writes.emission (hjoins : plan.Joins l r condition targets pairs) {commands : List Command}
    (h : Writes (observed left right plan commands) em) :
    let task := observed left right plan commands
    Source left.recorded task.stopped task.state.left task.state.phase em.left
        (task.after .next).state.left ∧
      em.Written plan ∧ ∀ row slot index,
        (task.after .next).state.phase = .matching row slot index →
          row = em.left ∧ em.kind = .joined := by
  intro task
  have hserves := serves_wide hleft hright plan
  have hs := hserves.run commands
  have hafter := hserves.next task.stopped task.state hs
  have hstands := stands_observed left.recorded right.recorded plan commands
  obtain ⟨step, hrequest, hem⟩ := h
  obtain ⟨step', hrequest', hstep, hreply⟩ :=
    exists_request hstands (sound_run commands) task.stopped 0
  obtain rfl := Option.some.inj (hrequest.symm.trans hrequest')
  have hstate : step.state = (task.after .next).state := congrArg Step.state hstep
  rw [← hstate]
  refine hreply.emission hjoins hleft.recorded hs.toHolds ?_ hem
  rw [hstate]
  exact hafter.table

/-- Of two rows that are put out for one left row, the first is a joined one: the second is for the
left row that was being matched, since no other was taken in between. -/
theorem Writes.joined (hjoins : plan.Joins l r condition targets pairs) {commands : List Command}
    {em' : Emission} {more : List Command} (h : Writes (observed left right plan commands) em)
    (h' : Writes (observed left right plan (commands ++ .next :: more)) em')
    (hpulls : pulls (observed left right plan commands) =
      pulls (observed left right plan (commands ++ .next :: more))) :
    em.kind = .joined ∧ em'.left = em.left := by
  obtain ⟨-, -, hmatching⟩ := h.emission hleft hright hjoins
  obtain ⟨hsource, -, -⟩ := h'.emission hleft hright hjoins
  have hfollows : Follows (pulls (observed left right plan commands)) em
      (observed left right plan (commands ++ [.next])).state := by
    rw [← observed_run]
    exact ⟨Nat.le_refl _, fun _ => hmatching⟩
  have hrun := hfollows.run more
  rw [List.append_assoc, List.singleton_append] at hrun
  rcases hsource.inv with ⟨hsame, slot, index, hphase⟩ | ⟨hmore, -⟩
  · have hcount := hpulls.trans (congrArg (·.asked.count .next) hsame)
    obtain ⟨hrow, hkind⟩ := hrun.matching hcount.symm _ slot index hphase
    exact ⟨hkind, hrow⟩
  · have hcount := (hpulls.trans (congrArg (·.asked.count .next) hmore)).trans List.count_append
    exact absurd hrun.le (by rw [hcount]; exact Nat.not_succ_le_self _)

end

/-- What is to be said of the rows that a join puts out after some commands, where `task` is the
join of two inputs that remember what they are asked. -/
structure PadsLast (commands : List Command)
    (task : Task (left.recorded.leftJoin right.recorded plan)) : Prop where
  /-- That the inputs remember makes no difference to the join. -/
  plain : task.state.map Recorded.input Recorded.input =
    ((Task.start (left.leftJoin right plan)).run commands).state
  /-- The rows that are answered are those that are put out for left rows. -/
  answered : ∀ row,
    (next plan left.recorded right.recorded task.stopped task.state).outcome = .ok (some row) ↔
      ∃ em, Writes task em ∧ em.row = row
  source : ∀ em, Writes task em → Source left.recorded task.stopped task.state.left
    task.state.phase em.left (task.after .next).state.left
  written : ∀ em, Writes task em → em.Written plan
  /-- On every partner that a request tries the quals are true, and the verdict is that of the
  filter. -/
  verdict : ∀ stopped table,
    (next plan left.recorded right.recorded stopped task.state).state.build.table = some table →
      ∀ n row slot index partner,
        .matching row slot index ∈
          phases plan table left.recorded stopped n task.state.left task.state.phase →
        (table.bucket slot)[index]? = some partner →
          (plan.qual.eval plan.input (Frame.mk row partner).view).result = .ok (.boolean true) ∧
          (verdict plan row partner).result = (plan.admits row partner).map fun accepted =>
            (if accepted then .joined else .padded, accepted)
  /-- If two rows are put out with no left row taken in between, the first is a joined one. So there
  is one padded row at most for a left row, and none after it. -/
  last : ∀ more em em', Writes task em → Writes (task.run (.next :: more)) em' →
    pulls task = pulls (task.run (.next :: more)) → em.kind = .joined ∧ em'.left = em.left

/-- On rows with the same key, without a null in it, the quals of a plan are true, whatever their
values are. So no partner is refused by them, and the padded row of a left row is its last one,
whatever the join is told. -/
theorem partners_match {l r : Schema} {condition : Expr} {targets : Option (List Target)}
    {plan : JoinPlan} (h : JoinPlan.make l r condition targets = .ok plan) :
    (∀ (schema : Schema) (f : Frame), f.left.length = l.size → f.right.length = r.size →
      ∃ key other, keyOf f.left plan.leftKeys = .ok key ∧ keyOf f.right plan.rightKeys = .ok other ∧
        (hasNull key = false → sameKey key other = true →
          (plan.qual.eval schema f.view).result = .ok (.boolean true))) ∧
    ∀ left right : Operator, left.schema = l → right.schema = r → left.Full → right.Full →
      ∀ commands, PadsLast commands (observed left right plan commands) := by
  obtain ⟨pairs, hjoins⟩ := JoinPlan.joins_of_make h
  constructor
  · intro schema f hleft hright
    have hkey := keyOf_eq_pick fun i hi => hleft ▸ hjoins.leftKeys_lt i hi
    have hother := keyOf_eq_pick fun i hi => hright ▸ hjoins.rightKeys_lt i hi
    refine ⟨_, _, hkey, hother, fun hnull hsame => ?_⟩
    exact hjoins.eval_qual schema hleft hright
      (JoinPlan.links_of_sameKey hkey hother hnull hsame)
  · rintro left right rfl rfl ⟨InvLeft, hleft⟩ ⟨InvRight, hright⟩ commands
    have hserves := serves_wide hleft hright plan
    have hs := hserves.run commands
    have hstands := stands_observed left.recorded right.recorded plan commands
    have hsound : Sound (observed left right plan commands).state := sound_run commands
    constructor
    case plain => exact map_observed left right plan commands
    case answered => exact answered_iff hstands hsound
    case source =>
      intro em hem
      exact (hem.emission hleft hright hjoins).1
    case written =>
      intro em hem
      exact (hem.emission hleft hright hjoins).2.1
    case verdict =>
      intro stopped table htable n row slot index partner hvisited hpartner
      have hafter := hserves.next stopped _ hs
      exact verdict_of_mem_phases hjoins hleft.recorded hs.toHolds hstands hsound htable
        (hafter.table table htable) hvisited hpartner
    case last =>
      intro more em em' hem hem' hpulls
      rw [observed_run] at hem' hpulls
      exact hem.joined hleft hright hjoins hem' hpulls

/-- The two zeros are the same key. -/
theorem partners_match_floats :
    let left : Relation := ⟨⟨[⟨"a", .float, true⟩]⟩, [[.float .zero], [.null]], by decide⟩
    let right : Relation := ⟨⟨[⟨"b", .float, true⟩]⟩, [[.float Binary64.zero.neg]], by decide⟩
    let condition := Expr.binary .equal (.column 1 .float "b") (.column 0 .float "a") .boolean
    ∃ plan, JoinPlan.make left.schema right.schema condition none = .ok plan ∧
      (plan.qual.eval plan.input (Frame.mk [.float .zero] [.float Binary64.zero.neg]).view).result =
        .ok (.boolean true) ∧
      PadsLast [.next, .rescan]
        (observed (Operator.scan left) (Operator.scan right) plan [.next, .rescan]) := by
  intro left right condition
  have hplan : JoinPlan.make left.schema right.schema condition none = .ok _ := rfl
  obtain ⟨hqual, hpads⟩ := partners_match hplan
  have hleft : (Operator.scan left).Full := .scan (by decide)
  have hright : (Operator.scan right).Full := .scan (by decide)
  obtain ⟨key, other, hkey, hother, htrue⟩ :=
    hqual (left.schema ++ right.schema) ⟨[.float .zero], [.float Binary64.zero.neg]⟩ rfl rfl
  cases hkey
  cases hother
  exact ⟨_, hplan, htrue (by decide) (by decide),
    hpads _ _ rfl rfl hleft hright [.next, .rescan]⟩

end Join

end RowEngine
