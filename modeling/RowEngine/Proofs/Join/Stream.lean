import RowEngine.Proofs.Join.Condition
import RowEngine.Proofs.Join.Step
import RowEngine.Proofs.Operator.Streaming
import RowEngine.Proofs.Value.Conforming

/-!
# A left outer join as a stream

While it runs, a left outer join owes the rest of the answer to the left row it is at and the whole
answers to the left rows after it. Each request pays the first row of what is owed. This holds
before the table is there, while a left row is matched with the rows of its bucket, and at the end.
-/

namespace RowEngine

namespace Join

variable {plan : JoinPlan} {row partner : Row}

/-- A pair on which the filter is true is put out; in the place of any other the left row is padded.
-/
theorem pair_result {accepted : Bool} (hadmits : plan.admits row partner = .ok accepted)
    (hqual : (plan.qual.holds plan.input (Frame.mk row partner).view).result = .ok true) :
    (pair plan row partner).result =
      (if accepted then plan.output row partner else plan.padding row).map (·, accepted) := by
  have hmap (x : Evaluation Row) :
      (x.bind fun out => Traced.ok (out, accepted)).result = x.result.map (·, accepted) := by
    rw [Traced.result_bind]
    cases x.result <;> rfl
  unfold JoinPlan.admits at hadmits
  cases hfilter : plan.filter with
  | none =>
    obtain rfl : true = accepted := by simpa [hfilter] using hadmits
    simp only [pair, hfilter, Traced.bind_eq, Traced.result_bind, hqual]
    exact hmap _
  | some filter =>
    rw [hfilter] at hadmits
    simp only [pair, hfilter, Traced.bind_eq, Traced.result_bind, hqual, hadmits]
    cases accepted <;> exact hmap _

/-- The slot of a left row is that of its partners, and it has none if it has no partners. -/
theorem slot?_spec {table : JoinTable} {rights : List Row}
    (htable : table.Splits plan.rightKeys rights) (hrow : ∀ i ∈ plan.leftKeys, i < row.length) :
    (slot? plan table row = .ok none ∧ plan.partners rights row = []) ∨
      ∃ slot, slot? plan table row = .ok (some slot) ∧ plan.partners rights row ≠ [] ∧
        table.bucket slot = plan.partners rights row := by
  have hslot : slot? plan table row =
      .ok (if hasNull (row.pick plan.leftKeys) then none
        else table.find? (row.pick plan.leftKeys)) := by
    rw [slot?, keyOf_eq_pick hrow]
    rfl
  cases hnull : hasNull (row.pick plan.leftKeys) with
  | true =>
    left
    rw [hslot, hnull]
    exact ⟨rfl, by simp [JoinPlan.partners, JoinPlan.links, hnull]⟩
  | false =>
    have hpartners : plan.partners rights row =
        rights.filter (belongs plan.rightKeys (row.pick plan.leftKeys)) := by
      apply List.filter_congr
      simp [JoinPlan.links, hnull]
    have hfind := htable.find? (row.pick plan.leftKeys)
    rw [hslot, hnull, hpartners]
    cases h : table.find? (row.pick plan.leftKeys) with
    | none =>
      rw [h] at hfind
      exact .inl ⟨by simp, hfind⟩
    | some slot =>
      rw [h] at hfind
      exact .inr ⟨slot, by simp, hfind⟩

section

variable {left right : Operator} {condition : Expr} {targets : Option (List Target)}
  {pairs : List (Nat × Nat)} (plan) (rights : List Row)
  (AtLeft : left.State → List Row → Prop) (EndLeft : left.State → Prop)
  (AtRight : right.State → List Row → Prop)

/-- The rows that are owed once the table is there. -/
inductive Owes (table : JoinTable) : left.State × Phase → List Row → Prop where
  | needLeft {s : left.State} {lefts out : List Row} (hs : AtLeft s lefts)
      (hfull : ∀ row ∈ lefts, row.length = left.schema.size)
      (hout : plan.rows rights lefts = .ok out) : Owes table (s, .needLeft) out
  | matching {s : left.State} {lefts first more : List Row} {row : Row} {slot index : Nat}
      (hs : AtLeft s lefts) (hfull : ∀ row ∈ lefts, row.length = left.schema.size)
      (hrow : row.length = left.schema.size)
      (hbucket : table.bucket slot = plan.partners rights row)
      (hindex : index < (table.bucket slot).length)
      (hfirst : plan.streak row ((table.bucket slot).drop index) = .ok first)
      (hmore : plan.rows rights lefts = .ok more) :
      Owes table (s, .matching row slot index) (first ++ more)
  | finished {s : left.State} (hs : EndLeft s) : Owes table (s, .finished) []

/-- A join that has not failed: its table is not there yet, with nothing taken from either side, or
it holds the right rows. -/
inductive Owing : State left.State right.State → List Row → Prop where
  | unloaded {s : left.State} {t : right.State} {build : BuildSide} {out : List Row}
      (hkeys : build.keyColumns = plan.rightKeys) (hnone : build.table = none)
      (ht : AtRight t rights)
      (hout : ∀ table, Owes plan rights AtLeft EndLeft table (s, .needLeft) out) :
      Owing ⟨s, t, build, .needLeft, false⟩ out
  | loaded {s : left.State} {t : right.State} {build : BuildSide} {table : JoinTable}
      {phase : Phase} {out : List Row} (htable : build.table = some table)
      (hsplits : table.Splits plan.rightKeys rights)
      (hout : Owes plan rights AtLeft EndLeft table (s, phase) out) :
      Owing ⟨s, t, build, phase, false⟩ out

end

variable {left right : Operator} {condition : Expr} {targets : Option (List Target)}
  {pairs : List (Nat × Nat)} {rights lefts more : List Row} {table : JoinTable}
  {AtLeft : left.State → List Row → Prop} {EndLeft : left.State → Prop}
  {AtRight : right.State → List Row → Prop} {s : left.State}

/-- The partner at `index` pays the first row that is owed for the partners from there on. -/
theorem probe_pays (hplan : plan.Joins left.schema right.schema condition targets pairs)
    (hrights : ∀ r ∈ rights, r.length = right.schema.size) (hs : AtLeft s lefts)
    (hfull : ∀ row ∈ lefts, row.length = left.schema.size) (hrow : row.length = left.schema.size)
    {slot index : Nat} (hbucket : table.bucket slot = plan.partners rights row)
    (hpartner : (table.bucket slot)[index]? = some partner) {first : List Row}
    (hfirst : plan.streak row ((table.bucket slot).drop index) = .ok first)
    (hmore : plan.rows rights lefts = .ok more) :
    ∃ out rest, first = out :: rest ∧
      (probe plan table row partner slot index).outcome = .ok (some out) ∧
      Owes plan rights AtLeft EndLeft table
        (s, (probe plan table row partner slot index).state) (rest ++ more) := by
  obtain ⟨hindex, hget⟩ := List.getElem?_eq_some_iff.mp hpartner
  have hdrop : (table.bucket slot).drop index =
      partner :: (table.bucket slot).drop (index + 1) := by
    rw [List.drop_eq_getElem_cons hindex, hget]
  have hmem : partner ∈ plan.partners rights row := by
    rw [← hbucket]
    exact List.mem_of_getElem? hpartner
  obtain ⟨hmem, hlinks⟩ := List.mem_filter.mp hmem
  have hqual := hplan.holds_quals_of_links (f := ⟨row, partner⟩) plan.input hrow
    (hrights partner hmem) hlinks
  rw [hdrop] at hfirst
  rcases JoinPlan.streak_cons_eq_ok.mp hfirst with
    ⟨out, rest, hadmits, hout, hrest, rfl⟩ | ⟨out, hadmits, hout, rfl⟩
  · have hpair : (pair plan row partner).outcome = .ok (out, true) := by
      simp [Traced.outcome_eq_ok, pair_result hadmits hqual, hout, Except.map]
    refine ⟨out, rest, rfl, by simp [probe, hpair], ?_⟩
    by_cases hlast : index + 1 < (table.bucket slot).length
    · have hstate : (probe plan table row partner slot index).state =
          .matching row slot (index + 1) := by
        simp [probe, hpair, phaseAfter, hlast]
      rw [hstate]
      exact .matching hs hfull hrow hbucket hlast hrest hmore
    · have hstate : (probe plan table row partner slot index).state = .needLeft := by
        simp [probe, hpair, phaseAfter, hlast]
      obtain rfl : rest = [] := by
        rw [List.drop_eq_nil_of_le (by omega)] at hrest
        exact (Except.ok.inj hrest).symm
      rw [hstate]
      exact .needLeft hs hfull hmore
  · have hpair : (pair plan row partner).outcome = .ok (out, false) := by
      simp [Traced.outcome_eq_ok, pair_result hadmits hqual, hout, Except.map]
    have hstate : (probe plan table row partner slot index).state = .needLeft := by
      simp [probe, hpair, phaseAfter]
    refine ⟨out, [], rfl, by simp [probe, hpair], ?_⟩
    rw [hstate]
    exact .needLeft hs hfull hmore

/-- Padding pays all that is owed to a row without partners. -/
theorem pad_pays (table : JoinTable) (hs : AtLeft s lefts)
    (hfull : ∀ row ∈ lefts, row.length = left.schema.size)
    (hnone : plan.partners rights row = []) {first : List Row}
    (hfirst : plan.answer rights row = .ok first) (hmore : plan.rows rights lefts = .ok more) :
    ∃ out rest, first = out :: rest ∧ (pad plan row).outcome = .ok (some out) ∧
      Owes plan rights AtLeft EndLeft table (s, (pad plan row).state) (rest ++ more) := by
  rw [JoinPlan.answer_of_no_partner hnone, map_eq_ok] at hfirst
  obtain ⟨out, hout, rfl⟩ := hfirst
  have hpadded : (padded plan row).outcome = .ok out := Traced.outcome_eq_ok.mpr hout
  refine ⟨out, [], rfl, by simp [pad, hpadded], ?_⟩
  have hstate : (pad plan row).state = .needLeft := by simp [pad, hpadded]
  rw [hstate]
  exact .needLeft hs hfull hmore

/-- The next left row pays the first row of its answer. -/
theorem pullLeft_pays (hplan : plan.Joins left.schema right.schema condition targets pairs)
    (hrights : ∀ r ∈ rights, r.length = right.schema.size) (hleft : left.Streams AtLeft EndLeft)
    (htable : table.Splits plan.rightKeys rights) (hs : AtLeft s lefts)
    (hfull : ∀ row ∈ lefts, row.length = left.schema.size) {owed : List Row}
    (howed : plan.rows rights lefts = .ok owed) :
    (pullLeft plan table left false s).outcome = .ok owed.head? ∧
      Owes plan rights AtLeft EndLeft table (pullLeft plan table left false s).state owed.tail := by
  cases lefts with
  | nil =>
    obtain rfl := JoinPlan.rows_nil_eq_ok.mp howed
    obtain ⟨hnext, hend⟩ := hleft.done s hs
    rw [pullLeft_end hnext]
    exact ⟨rfl, .finished hend⟩
  | cons row lefts =>
    obtain ⟨hnext, hs⟩ := hleft.row s row lefts hs
    obtain ⟨first, more, hfirst, hmore, rfl⟩ := JoinPlan.rows_cons_eq_ok.mp howed
    have hrow : row.length = left.schema.size := hfull row (by simp)
    have hfull : ∀ r ∈ lefts, r.length = left.schema.size := fun r hr => hfull r (by simp [hr])
    have hkeys : ∀ i ∈ plan.leftKeys, i < row.length := by
      rw [hrow]
      exact hplan.leftKeys_lt
    rcases slot?_spec htable hkeys with ⟨hslot, hnone⟩ | ⟨slot, hslot, hsome, hbucket⟩
    · obtain ⟨out, rest, rfl, hout, howes⟩ := pad_pays table hs hfull hnone hfirst hmore
      rw [pullLeft_alone hnext hslot]
      exact ⟨hout, howes⟩
    · rw [JoinPlan.answer_of_partners hsome, ← hbucket, ← List.drop_zero (l := table.bucket slot)]
        at hfirst
      rw [← hbucket] at hsome
      obtain ⟨partner, others, hcons⟩ := List.exists_cons_of_ne_nil hsome
      have hpartner : (table.bucket slot)[0]? = some partner := by rw [hcons]; rfl
      obtain ⟨out, rest, rfl, hout, howes⟩ := probe_pays hplan hrights hs hfull hrow hbucket
        hpartner hfirst hmore
      rw [pullLeft_partner hnext hslot hpartner]
      exact ⟨hout, howes⟩

/-- Each request pays the first of the rows that are owed. -/
theorem advance_pays (hplan : plan.Joins left.schema right.schema condition targets pairs)
    (hrights : ∀ r ∈ rights, r.length = right.schema.size) (hleft : left.Streams AtLeft EndLeft)
    (htable : table.Splits plan.rightKeys rights) {phase : Phase} {owed : List Row}
    (howes : Owes plan rights AtLeft EndLeft table (s, phase) owed) :
    (advance plan table left false s phase).outcome = .ok owed.head? ∧
      Owes plan rights AtLeft EndLeft table (advance plan table left false s phase).state
        owed.tail := by
  cases howes with
  | needLeft hs hfull hout => exact pullLeft_pays hplan hrights hleft htable hs hfull hout
  | @matching _ _ first more row slot index hs hfull hrow hbucket hindex hfirst hmore =>
    have hpartner := List.getElem?_eq_getElem hindex
    obtain ⟨out, rest, rfl, hout, howes⟩ := probe_pays hplan hrights hs hfull hrow hbucket hpartner
      hfirst hmore
    simp only [advance, hpartner]
    exact ⟨hout, howes⟩
  | finished hend => exact ⟨rfl, .finished hend⟩

theorem withTable_pays (hplan : plan.Joins left.schema right.schema condition targets pairs)
    (hrights : ∀ r ∈ rights, r.length = right.schema.size) (hleft : left.Streams AtLeft EndLeft)
    (htable : table.Splits plan.rightKeys rights) {phase : Phase} {owed : List Row}
    (howes : Owes plan rights AtLeft EndLeft table (s, phase) owed)
    {t : right.State} {build : BuildSide} (hbuild : build.table = some table) :
    (withTable plan table left false ⟨s, t, build, phase, false⟩).outcome = .ok owed.head? ∧
      Owing plan rights AtLeft EndLeft AtRight
        (withTable plan table left false ⟨s, t, build, phase, false⟩).state owed.tail := by
  obtain ⟨hout, howes⟩ := advance_pays hplan hrights hleft htable howes
  exact ⟨hout, .loaded hbuild htable howes⟩

/-- The first request builds the table and pays the first row that is owed. -/
theorem next_loads (hplan : plan.Joins left.schema right.schema condition targets pairs)
    {At : right.State → List Row → Prop} {EndRight : right.State → Prop}
    (hleft : left.Streams AtLeft EndLeft) (hright : right.Streams At EndRight)
    (hrights : ∀ r ∈ rights, r.length = right.schema.size) {input : left.State} {t : right.State}
    {build : BuildSide} {owed : List Row} (hkeys : build.keyColumns = plan.rightKeys)
    (hnone : build.table = none) (ht : At t rights)
    (howes : ∀ table, Owes plan rights AtLeft EndLeft table (input, .needLeft) owed) :
    (next plan left right false ⟨input, t, build, .needLeft, false⟩).outcome = .ok owed.head? ∧
      Owing plan rights AtLeft EndLeft AtRight
        (next plan left right false ⟨input, t, build, .needLeft, false⟩).state owed.tail := by
  have hcolumns : ∀ r ∈ rights, ∀ i ∈ build.keyColumns, i < r.length := by
    intro r hr i hi
    rw [hkeys] at hi
    rw [hrights r hr]
    exact hplan.rightKeys_lt i hi
  obtain ⟨hload, table, htable, hsplits⟩ := build.load_splits hright ht hcolumns
  rw [hkeys] at hsplits
  simp only [next, hnone, hload, htable]
  exact withTable_pays hplan hrights hleft hsplits (howes table) htable

/-- A request after the table is there, also at the end. -/
theorem next_loaded (hplan : plan.Joins left.schema right.schema condition targets pairs)
    (hleft : left.Streams AtLeft EndLeft) (hrights : ∀ r ∈ rights, r.length = right.schema.size)
    {input : left.State} {t : right.State} {build : BuildSide} {phase : Phase} {owed : List Row}
    (hbuild : build.table = some table) (htable : table.Splits plan.rightKeys rights)
    (howes : Owes plan rights AtLeft EndLeft table (input, phase) owed) :
    (next plan left right false ⟨input, t, build, phase, false⟩).outcome = .ok owed.head? ∧
      Owing plan rights AtLeft EndLeft AtRight
        (next plan left right false ⟨input, t, build, phase, false⟩).state owed.tail := by
  cases hphase : isFinished phase with
  | true =>
    cases howes with
    | finished hend => exact ⟨rfl, .loaded hbuild htable (.finished hend)⟩
    | _ => cases hphase
  | false =>
    simp only [next, hbuild, hphase]
    exact withTable_pays hplan hrights hleft htable howes hbuild

/-- Each request pays the first row that is owed. -/
theorem next_pays (hplan : plan.Joins left.schema right.schema condition targets pairs)
    {EndRight : right.State → Prop} (hleft : left.Streams AtLeft EndLeft)
    (hright : right.Streams AtRight EndRight)
    (hrights : ∀ r ∈ rights, r.length = right.schema.size) {s : State left.State right.State}
    {owed : List Row} (hs : Owing plan rights AtLeft EndLeft AtRight s owed) :
    (next plan left right false s).outcome = .ok owed.head? ∧
      Owing plan rights AtLeft EndLeft AtRight (next plan left right false s).state owed.tail := by
  cases hs with
  | unloaded hkeys hnone ht howes =>
    exact next_loads hplan hleft hright hrights hkeys hnone ht howes
  | loaded hbuild htable howes => exact next_loaded hplan hleft hrights hbuild htable howes

/-- Starting over begins with the first left row and keeps the table. -/
theorem Owing.rescan (hleft : left.Replays lefts AtLeft)
    (hlefts : ∀ l ∈ lefts, l.length = left.schema.size) {out rest : List Row}
    (hout : plan.rows rights lefts = .ok out) {s : State left.State right.State}
    (hs : Owing plan rights AtLeft (AtLeft · []) AtRight s rest) :
    (rescan left right s).outcome = .ok () ∧
      Owing plan rights AtLeft (AtLeft · []) AtRight (rescan left right s).state out := by
  have hagain {input : left.State} {rest : List Row} (hs : AtLeft input rest) (table : JoinTable) :
      Owes plan rights AtLeft (AtLeft · []) table ((left.rescan input).state, .needLeft) out :=
    .needLeft (hleft.again input rest hs).2 hlefts hout
  cases hs with
  | unloaded hkeys hnone ht howes =>
    cases howes .empty with
    | needLeft hs => exact ⟨(hleft.again _ _ hs).1, .unloaded hkeys hnone ht (hagain hs)⟩
  | loaded hbuild htable howes =>
    cases howes with
    | needLeft hs => exact ⟨(hleft.again _ _ hs).1, .loaded hbuild htable (hagain hs _)⟩
    | matching hs => exact ⟨(hleft.again _ _ hs).1, .loaded hbuild htable (hagain hs _)⟩
    | finished hs => exact ⟨(hleft.again _ _ hs).1, .loaded hbuild htable (hagain hs _)⟩

end Join

namespace Operator

variable {left right : Operator} {plan : JoinPlan} {condition : Expr}
  {targets : Option (List Target)} {lefts rights : List Row}
  {AtLeft : left.State → List Row → Prop} {EndLeft : left.State → Prop}
  {AtRight : right.State → List Row → Prop} {EndRight : right.State → Prop}

theorem Streams.leftJoin {pairs : List (Nat × Nat)}
    (hplan : plan.Joins left.schema right.schema condition targets pairs)
    (hleft : left.Streams AtLeft EndLeft) (hright : right.Streams AtRight EndRight)
    (hrights : ∀ r ∈ rights, r.length = right.schema.size) :
    (left.leftJoin right plan).Streams (Join.Owing plan rights AtLeft EndLeft AtRight)
      (Join.Owing plan rights AtLeft EndLeft AtRight · []) := by
  constructor
  · intro s row rest hs
    exact Join.next_pays hplan hleft hright hrights hs
  · intro s hs
    exact Join.next_pays hplan hleft hright hrights hs

theorem Replays.leftJoin {pairs : List (Nat × Nat)}
    (hplan : plan.Joins left.schema right.schema condition targets pairs)
    (hleft : left.Replays lefts AtLeft) (hright : right.Replays rights AtRight)
    (hlefts : ∀ l ∈ lefts, l.length = left.schema.size)
    (hrights : ∀ r ∈ rights, r.length = right.schema.size) {out : List Row}
    (hout : plan.rows rights lefts = .ok out) :
    (left.leftJoin right plan).Replays out
      (Join.Owing plan rights AtLeft (AtLeft · []) AtRight) where
  streams := hleft.streams.leftJoin hplan hright.streams hrights
  start := .unloaded rfl rfl hright.start fun _ => .needLeft hleft.start hlefts hout
  again _ _ hs := hs.rescan hleft hlefts hout

theorem collect_leftJoin_rows
    (hplan : JoinPlan.make left.schema right.schema condition targets = .ok plan)
    (hleft : (left.collect false left.start).outcome = .ok lefts)
    (hright : (right.collect false right.start).outcome = .ok rights)
    (hlefts : ∀ row ∈ lefts, row.length = left.schema.size)
    (hrights : ∀ row ∈ rights, row.length = right.schema.size) {out : List Row}
    (hout : plan.rows rights lefts = .ok out) :
    ((left.leftJoin right plan).collect false (left.leftJoin right plan).start).outcome =
      .ok out := by
  obtain ⟨pairs, hjoins⟩ := JoinPlan.joins_of_make hplan
  have hstart : Join.Owing plan rights (fun s rows => (left.collect false s).outcome = .ok rows)
      (fun _ => True) (fun s rows => (right.collect false s).outcome = .ok rows)
      (left.leftJoin right plan).start out :=
    .unloaded rfl rfl hright fun _ => .needLeft hleft hlefts hout
  have hstreams := Streams.leftJoin hjoins left.streams_collect right.streams_collect hrights
  exact (hstreams.collect hstart).1

/-- Draining a left outer join gives, left row by left row, what the join answers to it. -/
theorem collect_leftJoin
    (hplan : JoinPlan.make left.schema right.schema condition targets = .ok plan)
    (hleft : (left.collect false left.start).outcome = .ok lefts)
    (hright : (right.collect false right.start).outcome = .ok rights)
    (hlefts : ∀ row ∈ lefts, row.length = left.schema.size)
    (hrights : ∀ row ∈ rights, row.length = right.schema.size) {answers : List (List Row)}
    (hanswers : lefts.mapM (plan.answer rights) = .ok answers) :
    ((left.leftJoin right plan).collect false (left.leftJoin right plan).start).outcome =
        .ok answers.flatten ∧
      answers.length = lefts.length ∧ ∀ answer ∈ answers, answer ≠ [] := by
  have hrows : plan.rows rights lefts = .ok answers.flatten :=
    map_eq_ok.mpr ⟨answers, hanswers, rfl⟩
  refine ⟨collect_leftJoin_rows hplan hleft hright hlefts hrights hrows, length_mapM hanswers, ?_⟩
  intro answer hanswer
  obtain ⟨row, -, hrow⟩ := mapM_mem hanswers hanswer
  exact JoinPlan.answer_ne_nil hrow

/-- A row without a partner and a row with two. -/
theorem collect_leftJoin_integers :
    let left := Operator.scan (.ofIntegers "a" [1, 2])
    let right := Operator.scan (.ofIntegers "b" [2, 2])
    let condition := Expr.binary .equal (.column 0 .integer "a") (.column 1 .integer "b") .boolean
    let answers : List (List Row) :=
      [[[.integer 1, .null]], [[.integer 2, .integer 2], [.integer 2, .integer 2]]]
    ∃ plan, JoinPlan.make left.schema right.schema condition none = .ok plan ∧
      [[.integer 1], [.integer 2]].mapM (plan.answer [[.integer 2], [.integer 2]]) = .ok answers ∧
      ((left.leftJoin right plan).collect false (left.leftJoin right plan).start).outcome =
        .ok answers.flatten := by
  intro left right condition answers
  have hplan : JoinPlan.make left.schema right.schema condition none = .ok _ := rfl
  exact ⟨_, hplan, rfl, (collect_leftJoin hplan (collect_scan _) (collect_scan _) (Relation.full _)
    (Relation.full _) rfl).1⟩

end Operator

end RowEngine
