import RowEngine.Operator.Leaf
import RowEngine.Operator.Sorting
import RowEngine.Operator.Streaming
import RowEngine.Proofs.Join.Step

/-!
# What operators keep of their inputs

An operator changes its input only by asking it for rows, by starting it over and by closing it. So
whatever these three keep of an input is kept by each of them on the operator above, whatever that
operator does with the rows, and whatever fails.
-/

namespace RowEngine

namespace Operator

/-- Whatever is asked of an operator, `Inv` stays true of its state. -/
structure Keeps (op : Operator) (Inv : op.State → Prop) : Prop where
  next : ∀ stopped s, Inv s → Inv (op.next stopped s).state
  rescan : ∀ s, Inv s → Inv (op.rescan s).state
  close : ∀ s, Inv s → Inv (op.close s).state

namespace Keeps

variable {child left right : Operator} {Inv : child.State → Prop} {stopped : Bool}

theorem run (h : child.Keeps Inv) {task : Task child} (hs : Inv task.state)
    (commands : List Command) : Inv (task.run commands).state :=
  Task.run_keeps h.next h.rescan h.close task hs commands

theorem filter_next (h : child.Keeps Inv) (predicate : Expr) {s : child.State} (hs : Inv s) :
    Inv (Filter.next child predicate stopped s).state := by
  fun_induction Filter.next child predicate stopped s with
  | case1 s | case2 s | case3 s | case4 s => exact h.next stopped s hs
  | case5 s _ _ _ _ _ _ ih => exact ih (h.next stopped s hs)

theorem filter (h : child.Keeps Inv) (predicate : Expr) : (child.filter predicate).Keeps Inv :=
  ⟨fun _ _ hs => h.filter_next predicate hs, h.rescan, h.close⟩

theorem project_next (h : child.Keeps Inv) (projection : Projection) {s : child.State}
    (hs : Inv s) : Inv (Project.next child projection stopped s).state := by
  unfold Project.next
  dsimp only
  split <;> exact h.next stopped s hs

theorem project (h : child.Keeps Inv) (projection : Projection) :
    (child.project projection).Keeps Inv :=
  ⟨fun _ _ hs => h.project_next projection hs, h.rescan, h.close⟩

theorem limit_next (h : child.Keeps Inv) (count : Nat) {s : Limit.State child.State}
    (hs : Inv s.input) : Inv (Limit.next child count stopped s).state.input := by
  unfold Limit.next
  split
  · exact hs
  · exact h.next stopped s.input hs

theorem limit (h : child.Keeps Inv) (count : Nat) :
    (child.limit count).Keeps fun s => Inv s.input :=
  ⟨fun _ _ hs => h.limit_next count hs, fun s => h.rescan s.input, fun s => h.close s.input⟩

theorem sort_next (h : child.Keeps Inv) (keys : List SortKey) {s : Sorting.State child.State}
    (hs : Inv s.input) : Inv (Sorting.next child keys stopped s).state.input := by
  have hdrained : Inv (child.collect stopped s.input).state :=
    fold_keeps (h.next stopped) push [] hs
  unfold Sorting.next
  split
  · exact hs
  split
  · exact hs
  · dsimp only
    split <;> exact hdrained

theorem sort (h : child.Keeps Inv) (keys : List SortKey) :
    (child.sort keys).Keeps fun s => Inv s.input := by
  constructor
  case next => exact fun _ _ hs => h.sort_next keys hs
  case rescan =>
    intro s hs
    change Inv (Sorting.rescan child s).state.input
    unfold Sorting.rescan
    split
    · exact hs
    · exact h.rescan s.input hs
  case close =>
    intro s hs
    change Inv (Sorting.close child s).state.input
    unfold Sorting.close
    split
    · exact hs
    · exact h.close s.input hs

theorem load (h : child.Keeps Inv) (build : BuildSide) {s : child.State} (hs : Inv s) :
    Inv (build.load child stopped s).state.2 := by
  have hdrained : Inv (child.fold stopped (Buildup.add build.keyColumns) .empty s).state :=
    fold_keeps (h.next stopped) _ _ hs
  unfold BuildSide.load
  dsimp only
  split <;> exact hdrained

theorem pullLeft (h : child.Keeps Inv) (plan : JoinPlan) (table : JoinTable) {s : child.State}
    (hs : Inv s) : Inv (Join.pullLeft plan table child stopped s).state.1 := by
  fun_induction Join.pullLeft plan table child stopped s with
  | case1 s | case2 s | case3 s | case4 s | case5 s => exact h.next stopped s hs
  | case6 s _ _ _ _ _ _ ih => exact ih (h.next stopped s hs)

theorem advance (h : child.Keeps Inv) (plan : JoinPlan) (table : JoinTable) (phase : Join.Phase)
    {s : child.State} (hs : Inv s) :
    Inv (Join.advance plan table child stopped s phase).state.1 := by
  unfold Join.advance
  split
  · exact hs
  · exact h.pullLeft plan table hs
  · split
    · exact hs
    · exact h.pullLeft plan table hs

theorem leftJoin {Left : left.State → Prop} {Right : right.State → Prop} (hleft : left.Keeps Left)
    (hright : right.Keeps Right) (plan : JoinPlan) :
    (left.leftJoin right plan).Keeps fun s => Left s.left ∧ Right s.right := by
  constructor
  case next =>
    rintro stopped s ⟨hl, hr⟩
    obtain ⟨-, hleftSide, hrightSide⟩ := Join.next_cases left right plan stopped s
    constructor
    · rcases hleftSide with hsame | ⟨table, hadvanced⟩
      · exact hsame ▸ hl
      · exact hadvanced ▸ hleft.advance plan table s.phase hl
    · rcases hrightSide with ⟨hsame, -⟩ | ⟨-, -, -, hloaded, -⟩
      · exact hsame ▸ hr
      · exact hloaded ▸ hright.load s.build hr
  case rescan => exact fun s ⟨hl, hr⟩ => ⟨hleft.rescan s.left hl, hr⟩
  case close =>
    rintro s ⟨hl, hr⟩
    change Left (Join.close left right s).state.left ∧ Right (Join.close left right s).state.right
    unfold Join.close
    split
    · exact ⟨hl, hr⟩
    · exact ⟨hleft.close s.left hl, hright.close s.right hr⟩

end Keeps

end Operator

end RowEngine
