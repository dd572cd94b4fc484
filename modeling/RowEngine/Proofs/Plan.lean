import RowEngine.Plan
import RowEngine.Proofs.Join.Stream
import RowEngine.Proofs.Operator.Sorting
import RowEngine.Proofs.Operator.Streaming
import RowEngine.Proofs.Projection

/-!
# The rows of a plan

A plan stands for a list of rows, which is given by recursion on the tree: lists are filtered,
projected, cut off, sorted and joined. Whatever a consumer asks of the machine that runs the plan,
it receives this list.
-/

namespace RowEngine.Plan

/-- The rows that a plan stands for, unless an expression fails on one of the rows that it is tried
on. -/
def rows : Plan → Except EvalError (List Row)
  | scan relation => .ok relation.rows
  | scripted script => .ok script.rows
  | filter input predicate => do (← input.rows).filterM (Filter.test input.schema predicate)
  | project input projection => do (← input.rows).mapM (Project.image projection)
  | limit input count => do return (← input.rows).take count
  | sort input keys => do return SortKey.stableSort keys (← input.rows)
  | join left right plan => do plan.rows (← right.rows) (← left.rows)

/-- Every sort puts the rows that it receives in line. -/
def Sortable : Plan → Prop
  | scan _ | scripted _ => True
  | filter input _ | project input _ | limit input _ => input.Sortable
  | sort input keys => input.Sortable ∧ ∀ rows, input.rows = .ok rows → SortKey.Orders keys rows
  | join left right _ => left.Sortable ∧ right.Sortable

inductive Built : Plan → Prop where
  | scan (relation : Relation) : Built (scan relation)
  | filter {input p : Plan} {predicate : Expr} (hinput : Built input)
      (hp : input.filterBy predicate = .ok p) : Built p
  | project {input p : Plan} {targets : List Target} (hinput : Built input)
      (hp : input.projectTo targets = .ok p) : Built p
  | limit {input : Plan} (hinput : Built input) (count : Nat) : Built (limit input count)
  | sort {input p : Plan} {settings : Settings} {keys : List SortKey.Request}
      (hinput : Built input) (hp : sortBy settings input keys = .ok p) : Built p
  | join {left right p : Plan} {condition : Expr} {targets : Option (List Target)}
      {entry : LogEntry} (hleft : Built left) (hright : Built right)
      (hp : joinOn left right condition targets = .ok (p, entry)) : Built p

variable {input left right p : Plan}

theorem filterBy_eq_ok {predicate : Expr} (h : input.filterBy predicate = .ok p) :
    p = input.filter predicate := by
  unfold filterBy at h
  split at h
  · exact (Except.ok.inj h).symm
  · cases h

theorem projectTo_eq_ok {targets : List Target} (h : input.projectTo targets = .ok p) :
    ∃ projection, Projection.make input.schema (some targets) = .ok projection ∧
      p = input.project projection := by
  obtain ⟨projection, hprojection, hp⟩ := bind_eq_ok.mp h
  exact ⟨projection, hprojection, (Except.ok.inj hp).symm⟩

theorem sortBy_eq_ok {settings : Settings} {requests : List SortKey.Request}
    (h : sortBy settings input requests = .ok p) : ∃ keys, p = input.sort keys := by
  obtain ⟨keys, -, hp⟩ := bind_eq_ok.mp h
  exact ⟨keys, (Except.ok.inj hp).symm⟩

theorem joinOn_eq_ok {condition : Expr} {targets : Option (List Target)} {entry : LogEntry}
    (h : joinOn left right condition targets = .ok (p, entry)) :
    ∃ plan, JoinPlan.make left.schema right.schema condition targets = .ok plan ∧
      p = left.join right plan := by
  obtain ⟨plan, hplan, hp⟩ := bind_eq_ok.mp h
  exact ⟨plan, hplan, (congrArg Prod.fst (Except.ok.inj hp)).symm⟩

/-- Every row has a value for each column of the plan. -/
theorem Built.length_eq (h : p.Built) {rows : List Row} (hrows : p.rows = .ok rows) :
    ∀ row ∈ rows, row.length = p.schema.size := by
  induction h generalizing rows with
  | scan relation =>
    obtain rfl := Except.ok.inj hrows
    exact relation.full
  | filter _ hp ih =>
    obtain rfl := filterBy_eq_ok hp
    obtain ⟨before, hbefore, hrows⟩ := bind_eq_ok.mp hrows
    intro row hrow
    exact ih hbefore row ((filterM_sublist hrows).subset hrow)
  | project _ hp ih =>
    obtain ⟨projection, hprojection, rfl⟩ := projectTo_eq_ok hp
    obtain ⟨before, hbefore, hrows⟩ := bind_eq_ok.mp hrows
    intro row hrow
    obtain ⟨source, hsource, hrow⟩ := mapM_mem hrows hrow
    exact Projection.length_apply hprojection (ih hbefore source hsource) hrow
  | limit _ count ih =>
    obtain ⟨before, hbefore, hrows⟩ := bind_eq_ok.mp hrows
    obtain rfl := Except.ok.inj hrows
    intro row hrow
    exact ih hbefore row (List.mem_of_mem_take hrow)
  | sort _ hp ih =>
    obtain ⟨keys, rfl⟩ := sortBy_eq_ok hp
    obtain ⟨before, hbefore, hrows⟩ := bind_eq_ok.mp hrows
    obtain rfl := Except.ok.inj hrows
    intro row hrow
    exact ih hbefore row ((List.mem_insertionSort _).mp hrow)
  | @join left right _ _ _ _ _ _ hp ihleft ihright =>
    obtain ⟨plan, hplan, rfl⟩ := joinOn_eq_ok hp
    obtain ⟨rights, hrights, hrows⟩ := bind_eq_ok.mp hrows
    obtain ⟨lefts, hlefts, hrows⟩ := bind_eq_ok.mp hrows
    obtain ⟨pairs, hjoins⟩ := JoinPlan.joins_of_make hplan
    intro row hrow
    obtain ⟨l, hl, hrow⟩ := JoinPlan.mem_rows hrows hrow
    have houtput {r : Row} (hr : r.length = right.schema.size) (h : plan.output l r = .ok row) :
        row.length = (left.join right plan).schema.size := by
      refine Projection.length_apply hjoins.projection ?_ h
      rw [Schema.size_append, ← ihleft hlefts l hl, ← hr]
      rfl
    rcases hrow with ⟨r, hr, hrow⟩ | hrow
    · exact houtput (ihright hrights r hr) hrow
    · exact houtput (by simp [Row.nulls, hjoins.rightWidth]) hrow

/-- The machine of a plan hands out the rows of the plan and can be started over at any time. The
induction is on the tree, and the relation for a node is made from those for its inputs. -/
theorem Built.replays (h : p.Built) (hsort : p.Sortable) {rows : List Row}
    (hrows : p.rows = .ok rows) :
    ∃ At : p.operator.State → List Row → Prop, p.operator.Replays rows At := by
  induction h generalizing rows with
  | scan relation =>
    obtain rfl := Except.ok.inj hrows
    exact ⟨_, Operator.Replays.scan relation⟩
  | filter _ hp ih =>
    obtain rfl := filterBy_eq_ok hp
    obtain ⟨before, hbefore, hrows⟩ := bind_eq_ok.mp hrows
    obtain ⟨At, hinput⟩ := ih hsort hbefore
    exact ⟨_, hinput.filter hrows⟩
  | project _ hp ih =>
    obtain ⟨projection, -, rfl⟩ := projectTo_eq_ok hp
    obtain ⟨before, hbefore, hrows⟩ := bind_eq_ok.mp hrows
    obtain ⟨At, hinput⟩ := ih hsort hbefore
    exact ⟨_, hinput.project hrows⟩
  | limit _ count ih =>
    obtain ⟨before, hbefore, hrows⟩ := bind_eq_ok.mp hrows
    obtain rfl := Except.ok.inj hrows
    obtain ⟨At, hinput⟩ := ih hsort hbefore
    exact ⟨_, hinput.limit count⟩
  | sort _ hp ih =>
    obtain ⟨keys, rfl⟩ := sortBy_eq_ok hp
    obtain ⟨before, hbefore, hrows⟩ := bind_eq_ok.mp hrows
    obtain rfl := Except.ok.inj hrows
    obtain ⟨hsort, horders⟩ := hsort
    obtain ⟨At, hinput⟩ := ih hsort hbefore
    rw [← Sorting.sortRows_eq_stableSort (horders before hbefore)]
    exact ⟨_, hinput.sort keys⟩
  | join hleft hright hp ihleft ihright =>
    obtain ⟨plan, hplan, rfl⟩ := joinOn_eq_ok hp
    obtain ⟨rights, hrights, hrows⟩ := bind_eq_ok.mp hrows
    obtain ⟨lefts, hlefts, hrows⟩ := bind_eq_ok.mp hrows
    obtain ⟨pairs, hjoins⟩ := JoinPlan.joins_of_make hplan
    obtain ⟨AtLeft, hleftReplays⟩ := ihleft hsort.1 hlefts
    obtain ⟨AtRight, hrightReplays⟩ := ihright hsort.2 hrights
    exact ⟨_, hleftReplays.leftJoin hjoins hrightReplays (hleft.length_eq hlefts)
      (hright.length_eq hrights) hrows⟩

open Operator

/-- Whatever a consumer has asked of a plan before: the rows that it has received since the last
start are the first rows of the plan, the next row comes right after them, the end comes just when
they are all rows, and the plan can be started over. -/
theorem run_refines_rows (hbuilt : p.Built) (hsort : p.Sortable) {rows : List Row}
    (hrows : p.rows = .ok rows) (requests : List Request) :
    let session := (Session.start p.operator).run requests
    session.seen <+: rows ∧
      (p.operator.next false session.state).outcome = .ok rows[session.seen.length]? ∧
      ((p.operator.next false session.state).outcome = .ok none ↔ session.seen = rows) ∧
      (p.operator.rescan session.state).outcome = .ok () := by
  intro session
  obtain ⟨At, hreplays⟩ := hbuilt.replays hsort hrows
  obtain ⟨hreceived, hnext, hrescan⟩ := hreplays.consumer requests
  refine ⟨hreceived, hnext, ?_, hrescan⟩
  rw [hnext, Except.ok.injEq, List.getElem?_eq_none_iff]
  constructor
  · intro hle
    exact hreceived.eq_of_length_le hle
  · intro hall
    rw [hall]

/-- A sort over a scan that is asked for a row, started over and asked for a row again. -/
theorem run_refines_rows_integers :
    let p := (scan (.ofIntegers "n" [3, 1, 2])).sort [⟨0, true, false⟩]
    let session := (Session.start p.operator).run [.next, .rescan, .next]
    p.rows = .ok [[.integer 1], [.integer 2], [.integer 3]] ∧
      session.seen <+: [[.integer 1], [.integer 2], [.integer 3]] := by
  intro p session
  have hsortBy : sortBy .default (scan (.ofIntegers "n" [3, 1, 2])) [⟨"n", true, some false⟩] =
      .ok p := rfl
  have hbuilt : p.Built := .sort (.scan _) hsortBy
  have hrows : p.rows = .ok [[.integer 1], [.integer 2], [.integer 3]] := rfl
  have hsort : p.Sortable := by
    refine ⟨trivial, ?_⟩
    intro rows hrows
    obtain rfl := Except.ok.inj hrows
    constructor <;> decide
  exact ⟨hrows, (run_refines_rows hbuilt hsort hrows _).1⟩

end RowEngine.Plan
