import RowEngine.Proofs.Expr.Refolding
import RowEngine.Proofs.Join.Answer
import RowEngine.Proofs.Projection
import RowEngine.Proofs.Value.Equality

/-!
# What a join plan is made of

The join quals of a plan are the conjuncts of the condition that link the two inputs, and its filter
is made of the others. On a pair of rows the quals are all true just if the keys of the two rows are
the same and hold no null, so the table finds the partners that the condition asks for.
-/

namespace RowEngine

open RowEngine.Expr

/-- The parts of a plan for joining two inputs. -/
structure JoinPlan.Joins (plan : JoinPlan) (left right : Schema) (condition : Expr)
    (targets : Option (List Target)) (pairs : List (Nat × Nat)) : Prop where
  type : condition.type = .boolean
  inside : condition.stray? (left ++ right).size = none
  input : plan.input = left ++ right
  keys : keyPairs left.size (splitQuals left.size condition.conjuncts).1 = .ok pairs
  checked : pairs.forM (checkPair left right) = .ok ()
  qual : conjoin (splitQuals left.size condition.conjuncts).1 = .ok (some plan.qual)
  filter : conjoin (splitQuals left.size condition.conjuncts).2 = .ok plan.filter
  projection : Projection.make (left ++ right) targets = .ok plan.projection
  leftKeys : plan.leftKeys = pairs.map (·.1)
  rightKeys : plan.rightKeys = pairs.map (·.2)
  rightWidth : plan.rightWidth = right.size

theorem JoinPlan.joins_of_make {left right : Schema} {condition : Expr}
    {targets : Option (List Target)} {plan : JoinPlan}
    (h : JoinPlan.make left right condition targets = .ok plan) :
    ∃ pairs, plan.Joins left right condition targets pairs := by
  unfold make at h
  dsimp only at h
  split at h
  · exact absurd h throw_bind_ne_ok
  rename_i htype
  split at h
  · exact absurd h throw_bind_ne_ok
  rename_i hinside
  obtain ⟨pairs, hpairs, h⟩ := bind_eq_ok.mp h
  split at h
  · exact absurd h throw_bind_ne_ok
  obtain ⟨_, hchecked, h⟩ := bind_eq_ok.mp h
  obtain ⟨qual?, hqual, h⟩ := bind_eq_ok.mp h
  cases qual? with
  | none => exact absurd h throw_ne_ok
  | some qual =>
    obtain ⟨filter, hfilter, h⟩ := bind_eq_ok.mp h
    obtain ⟨projection, hprojection, h⟩ := bind_eq_ok.mp h
    obtain rfl := Except.ok.inj h
    refine ⟨pairs, ?_, ?_, rfl, hpairs, hchecked, hqual, hfilter, hprojection, rfl, rfl, rfl⟩
    · simpa using htype
    · exact Option.eq_none_iff_forall_ne_some.mpr hinside

namespace Frame

theorem value_left (f : Frame) {i : Nat} (h : i < f.left.length) :
    f.view.value i = some (f.left.at i) := by
  rw [← Row.getElem?_eq_at h]
  exact if_pos h

theorem value_right (f : Frame) {i : Nat} (h : i < f.right.length) :
    f.view.value (f.left.length + i) = some (f.right.at i) := by
  rw [← Row.getElem?_eq_at h]
  have hnot : ¬ f.left.length + i < f.left.length := by omega
  simp [view, hnot]

/-- Every column of a pair of rows can be read. -/
theorem exists_value (f : Frame) {i : Nat} (h : i < f.view.width) :
    ∃ v, f.view.value i = some v := by
  have hwidth : i < f.left.length + f.right.length := h
  by_cases hi : i < f.left.length
  · exact ⟨_, f.value_left hi⟩
  · obtain ⟨j, rfl⟩ := Nat.exists_eq_add_of_le (Nat.le_of_not_lt hi)
    exact ⟨_, f.value_right (by omega)⟩

end Frame

namespace Expr

variable {schema : Schema} {f : Frame}

theorem keyPairs_eq_ok {width : Nat} {quals : List Expr} {pairs : List (Nat × Nat)}
    (h : keyPairs width quals = .ok pairs) : quals.map (keyPair? width) = pairs.map some := by
  induction quals generalizing pairs with
  | nil =>
    obtain rfl := mapM_nil_eq_ok.mp h
    rfl
  | cons qual rest ih =>
    obtain ⟨pair, others, hpair, hothers, rfl⟩ := mapM_cons_eq_ok.mp h
    cases hqual : qual.keyPair? width with
    | none => simp [hqual] at hpair
    | some p =>
      obtain rfl : p = pair := by simpa [hqual] using hpair
      rw [List.map_cons, List.map_cons, hqual, ih hothers]

/-- A key pair comes from an equality of two columns, one of each side, in either order. -/
theorem keyPair?_eq_some {width : Nat} {qual : Expr} {pair : Nat × Nat}
    (h : qual.keyPair? width = some pair) :
    ∃ i j s t m n type, qual = binary .equal (column i s m) (column j t n) type ∧
      ((i = pair.1 ∧ i < width ∧ j = width + pair.2) ∨
        (j = pair.1 ∧ j < width ∧ i = width + pair.2)) := by
  unfold keyPair? at h
  split at h
  · rename_i i j hcolumns
    unfold equalColumns? at hcolumns
    split at hcolumns
    · rename_i a s m b t n type
      obtain ⟨rfl, rfl⟩ : a = i ∧ b = j := by simpa using hcolumns
      refine ⟨a, b, s, t, m, n, type, rfl, ?_⟩
      split at h
      · obtain rfl := Option.some.inj h
        left
        dsimp only
        omega
      split at h
      · obtain rfl := Option.some.inj h
        right
        dsimp only
        omega
      · cases h
    · cases hcolumns
  · cases h

/-- A join qual is true on a pair of rows just if the values of its two columns link. -/
theorem holds_qual {qual : Expr} {pair : Nat × Nat}
    (hqual : qual.keyPair? f.left.length = some pair) (hlt : pair.2 < f.right.length)
    (htypes : (f.left.at pair.1).isNull = false → (f.right.at pair.2).isNull = false →
      (f.left.at pair.1).type = (f.right.at pair.2).type) :
    (qual.holds schema f.view).result = .ok ((f.left.at pair.1).links (f.right.at pair.2)) := by
  have hright := f.value_right hlt
  obtain ⟨i, j, s, t, m, n, type, rfl, ⟨rfl, hlt, rfl⟩ | ⟨rfl, hlt, rfl⟩⟩ := keyPair?_eq_some hqual
  · have hleft := f.value_left hlt
    rw [holds_eq_ok]
    refine ⟨_, ?_, Value.isTrue_equal htypes⟩
    simp [eval, hleft, hright, BinaryOp.decided?, BinaryOp.apply, Traced.ofExcept]
  · have hleft := f.value_left hlt
    rw [holds_eq_ok, Value.links_comm]
    refine ⟨_, ?_, Value.isTrue_equal fun hy hx => (htypes hx hy).symm⟩
    simp [eval, hleft, hright, BinaryOp.decided?, BinaryOp.apply, Traced.ofExcept]

end Expr

/-- Rows are partners just if the columns of every key pair hold the same, which is not null. -/
theorem JoinPlan.links_eq_all {plan : JoinPlan} {pairs : List (Nat × Nat)} (left right : Row)
    (hleft : plan.leftKeys = pairs.map (·.1)) (hright : plan.rightKeys = pairs.map (·.2)) :
    plan.links left right = pairs.all fun p => (left.at p.1).links (right.at p.2) := by
  rw [links, belongs, hleft, hright]
  clear hleft hright
  induction pairs with
  | nil => rfl
  | cons p rest ih =>
    rw [List.all_cons, ← ih]
    simp only [Row.pick, List.map_cons, hasNull, List.any_cons, sameKey, Value.links, Row.at]
    generalize (left[p.1]?).getD .null = x, (right[p.2]?).getD .null = y
    cases x.isNull <;> cases y.isNull <;> cases x.same y <;> simp

namespace JoinPlan.Joins

variable {plan : JoinPlan} {left right : Schema} {condition : Expr}
  {targets : Option (List Target)} {pairs : List (Nat × Nat)} {f : Frame}

/-- The key columns of both sides exist and have one type. -/
theorem columns (h : plan.Joins left right condition targets pairs) {pair : Nat × Nat}
    (hpair : pair ∈ pairs) : ∃ l r, left.columns[pair.1]? = some l ∧
      right.columns[pair.2]? = some r ∧ l.type = r.type := by
  have hcheck := forM_eq_ok.mp h.checked pair hpair
  simp only [checkPair, Schema.column?] at hcheck
  split at hcheck
  · rename_i l r hl hr
    split at hcheck
    · exact ⟨l, r, hl, hr, ‹_›⟩
    · cases hcheck
  · cases hcheck

theorem leftKeys_lt (h : plan.Joins left right condition targets pairs) :
    ∀ i ∈ plan.leftKeys, i < left.size := by
  intro i hi
  rw [h.leftKeys, List.mem_map] at hi
  obtain ⟨pair, hpair, rfl⟩ := hi
  obtain ⟨l, r, hl, -, -⟩ := h.columns hpair
  exact (List.getElem?_eq_some_iff.mp hl).1

theorem rightKeys_lt (h : plan.Joins left right condition targets pairs) :
    ∀ i ∈ plan.rightKeys, i < right.size := by
  intro i hi
  rw [h.rightKeys, List.mem_map] at hi
  obtain ⟨pair, hpair, rfl⟩ := hi
  obtain ⟨l, r, -, hr, -⟩ := h.columns hpair
  exact (List.getElem?_eq_some_iff.mp hr).1

/-- A join without targets writes pairs of rows as they are. -/
theorem projection_eq (h : plan.Joins left right condition none pairs) :
    plan.projection = .identity (left ++ right) :=
  (Except.ok.inj h.projection).symm

/-- A pair of rows is written where no target fails on it. -/
theorem exists_output (h : plan.Joins left right condition targets pairs) {l r : Row}
    (htargets : ∀ t ∈ targets.getD [],
      ∃ v, (t.expr.eval (left ++ right) (Frame.mk l r).view).result = .ok v) :
    ∃ out, plan.output l r = .ok out :=
  Projection.exists_apply h.projection (fun _ hi => (Frame.mk l r).exists_value hi) htargets

/-- The quals of a plan are true together just if the two rows are partners. It is enough that the
key columns hold values of one type where they hold no null. -/
theorem holds_quals (h : plan.Joins left right condition targets pairs) (schema : Schema)
    (hleft : f.left.length = left.size) (hright : f.right.length = right.size)
    (htypes : ∀ p ∈ pairs, (f.left.at p.1).isNull = false → (f.right.at p.2).isNull = false →
      (f.left.at p.1).type = (f.right.at p.2).type) :
    (plan.qual.holds schema f.view).result = .ok (plan.links f.left f.right) := by
  have hkeys := keyPairs_eq_ok h.keys
  let linked (pair? : Option (Nat × Nat)) : Bool :=
    pair?.any fun p => (f.left.at p.1).links (f.right.at p.2)
  have heach : ∀ qual ∈ (splitQuals left.size condition.conjuncts).1,
      (qual.holds schema f.view).result = .ok (linked (qual.keyPair? left.size)) := by
    intro qual hqual
    have hmem : qual.keyPair? left.size ∈ pairs.map some := by
      rw [← hkeys]
      exact List.mem_map_of_mem hqual
    obtain ⟨pair, hpair, hsome⟩ := List.mem_map.mp hmem
    have hlt : pair.2 < f.right.length := by
      rw [hright]
      apply h.rightKeys_lt
      rw [h.rightKeys]
      exact List.mem_map_of_mem hpair
    rw [← hsome]
    rw [← hleft] at hsome
    exact holds_qual hsome.symm hlt (htypes pair hpair)
  rw [holds_conjoin h.qual heach, links_eq_all f.left f.right h.leftKeys h.rightKeys]
  congr 1
  calc (splitQuals left.size condition.conjuncts).1.all (fun q => linked (q.keyPair? left.size))
      = ((splitQuals left.size condition.conjuncts).1.map (keyPair? left.size)).all linked := by
        rw [List.all_map, Function.comp_def]
    _ = pairs.all fun p => (f.left.at p.1).links (f.right.at p.2) := by
        rw [hkeys, List.all_map]
        rfl

/-- On partners the quals are true, whatever their values are. -/
theorem holds_quals_of_links (h : plan.Joins left right condition targets pairs) (schema : Schema)
    (hleft : f.left.length = left.size) (hright : f.right.length = right.size)
    (hlinks : plan.links f.left f.right = true) :
    (plan.qual.holds schema f.view).result = .ok true := by
  rw [← hlinks]
  apply h.holds_quals schema hleft hright
  intro p hp _ _
  rw [links_eq_all f.left f.right h.leftKeys h.rightKeys, List.all_eq_true] at hlinks
  have hp := hlinks p hp
  simp only [Value.links, Bool.and_eq_true] at hp
  exact Value.type_of_same hp.2

/-- The filter is true just if all residual conjuncts are. -/
theorem admits_eq_all (h : plan.Joins left right condition targets pairs) {truth : Expr → Bool}
    (htruth : ∀ c ∈ (splitQuals left.size condition.conjuncts).2,
      (c.holds plan.input f.view).result = .ok (truth c)) :
    plan.admits f.left f.right =
      .ok ((splitQuals left.size condition.conjuncts).2.all truth) := by
  unfold admits
  cases hfilter : plan.filter with
  | none =>
    have hnone := h.filter
    rw [hfilter, conjoin_eq_none] at hnone
    rw [hnone]
    rfl
  | some filter =>
    have hsome := h.filter
    rw [hfilter] at hsome
    exact holds_conjoin hsome htruth

/-- Where no conjunct fails, neither the condition nor its parts do, and the condition is true just
if both parts are. -/
theorem holds_parts (h : plan.Joins left right condition targets pairs)
    (hconjuncts : ∀ c ∈ condition.conjuncts, ∃ v, (c.eval plan.input f.view).result = .ok v) :
    ∃ p q, (plan.qual.holds plan.input f.view).result = .ok p ∧
      plan.admits f.left f.right = .ok q ∧
      (condition.holds plan.input f.view).result = .ok (p && q) := by
  let truth (c : Expr) : Bool := passed (c.holds plan.input f.view).result
  have htruth : ∀ c ∈ condition.conjuncts, (c.holds plan.input f.view).result = .ok (truth c) := by
    intro c hc
    obtain ⟨v, hv⟩ := hconjuncts c hc
    exact eq_ok_passed (holds_eq_ok.mpr ⟨v, hv, rfl⟩)
  refine ⟨(splitQuals left.size condition.conjuncts).1.all truth,
    (splitQuals left.size condition.conjuncts).2.all truth, ?_, ?_, ?_⟩
  · exact holds_conjoin h.qual fun c hc => htruth c (mem_of_mem_quals hc)
  · exact h.admits_eq_all fun c hc => htruth c (mem_of_mem_residual hc)
  · rw [all_splitQuals]
    exact holds_conjuncts htruth

theorem conjuncts_qual (h : plan.Joins left right condition targets pairs) :
    plan.qual.conjuncts = condition.conjuncts.filter (linksSides left.size) := by
  rw [conjuncts_conjoin h.qual fun c hc => conjuncts_of_mem (mem_of_mem_quals hc), splitQuals,
    List.partition_eq_filter_filter]

/-- The filter is made of the conjuncts that are no join quals, in their order. -/
theorem conjuncts_filter (h : plan.Joins left right condition targets pairs) :
    plan.filter.toList.flatMap conjuncts =
      condition.conjuncts.filter fun c => !c.linksSides left.size := by
  have hresidual : (splitQuals left.size condition.conjuncts).2 =
      condition.conjuncts.filter fun c => !c.linksSides left.size := by
    rw [splitQuals, List.partition_eq_filter_filter]
    rfl
  rw [← hresidual]
  have hparts := h.filter
  cases hfilter : plan.filter with
  | none =>
    rw [hfilter, conjoin_eq_none] at hparts
    rw [hparts]
    rfl
  | some filter =>
    rw [hfilter] at hparts
    rw [← conjuncts_conjoin hparts fun c hc => conjuncts_of_mem (mem_of_mem_residual hc)]
    simp

end JoinPlan.Joins

/-- A plan keeps the whole condition. The conjuncts that link the two inputs are those of the qual,
the others are those of the filter, each in their order; and on a pair of rows on which no conjunct
fails, the condition is true just if the qual is and the filter, if there is one, is too. -/
theorem JoinPlan.make_keeps_condition {left right : Schema} {condition : Expr}
    {targets : Option (List Target)} {plan : JoinPlan}
    (h : JoinPlan.make left right condition targets = .ok plan) :
    plan.qual.conjuncts = condition.conjuncts.filter (linksSides left.size) ∧
    plan.filter.toList.flatMap conjuncts =
      condition.conjuncts.filter (fun c => !c.linksSides left.size) ∧
    ∀ f : Frame,
      (∀ c ∈ condition.conjuncts, ∃ v, (c.eval (left ++ right) f.view).result = .ok v) →
      ∃ p q, (plan.qual.holds (left ++ right) f.view).result = .ok p ∧
        (∀ filter ∈ plan.filter, (filter.holds (left ++ right) f.view).result = .ok q) ∧
        (plan.filter = none → q = true) ∧
        (condition.holds (left ++ right) f.view).result = .ok (p && q) := by
  obtain ⟨pairs, hjoins⟩ := joins_of_make h
  refine ⟨hjoins.conjuncts_qual, hjoins.conjuncts_filter, fun f hconjuncts => ?_⟩
  rw [← hjoins.input] at hconjuncts ⊢
  obtain ⟨p, q, hqual, hfilter, hcondition⟩ := hjoins.holds_parts hconjuncts
  refine ⟨p, q, hqual, ?_, ?_, hcondition⟩
  · intro filter hsome
    simpa [admits, Option.mem_def.mp hsome] using hfilter
  · intro hnone
    simpa [admits, hnone, eq_comm] using hfilter

/-- Of `b IS NOT NULL AND (a = b AND a < 2)` the equality becomes the qual, and the conjuncts around
it become the filter. -/
theorem JoinPlan.make_keeps_condition_bracketed :
    let a := Expr.column 0 .integer "a"
    let b := Expr.column 1 .integer "b"
    let known := Expr.isNull b true
    let same := Expr.binary .equal a b .boolean
    let small := Expr.binary .less a (.const (.integer 2)) .boolean
    let condition := Expr.binary .and known (.binary .and same small .boolean) .boolean
    let row := (Frame.mk [.integer 1] [.integer 1]).view
    ∃ plan, JoinPlan.make ⟨[⟨"a", .integer, false⟩]⟩ ⟨[⟨"b", .integer, true⟩]⟩ condition none =
        .ok plan ∧
      plan.qual.conjuncts = [same] ∧ plan.filter.toList.flatMap conjuncts = [known, small] ∧
      ∃ p q, (plan.qual.holds plan.input row).result = .ok p ∧
        (∀ filter ∈ plan.filter, (filter.holds plan.input row).result = .ok q) ∧
        (condition.holds plan.input row).result = .ok (p && q) := by
  intro a b known same small condition row
  have hplan : JoinPlan.make ⟨[⟨"a", .integer, false⟩]⟩ ⟨[⟨"b", .integer, true⟩]⟩ condition none =
    .ok _ := rfl
  obtain ⟨hqual, hfilter, htrue⟩ := make_keeps_condition hplan
  obtain ⟨p, q, hp, hq, -, hcondition⟩ := htrue ⟨[.integer 1], [.integer 1]⟩ (by
    intro c hc
    have hc : c ∈ [known, same, small] := hc
    simp only [List.mem_cons, List.not_mem_nil, or_false] at hc
    rcases hc with rfl | rfl | rfl <;> exact ⟨_, rfl⟩)
  exact ⟨_, hplan, hqual, hfilter, p, q, hp, hq, hcondition⟩

end RowEngine
