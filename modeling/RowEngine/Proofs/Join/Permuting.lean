import RowEngine.Proofs.Join.Planning
import RowEngine.Proofs.Join.Retry

/-!
# Conjuncts in another order

What a join does with its condition depends on which conjuncts it has, not on their order nor on the
brackets around them. Each check of a plan is about all conjuncts or about one of them, the key
columns of the two sides are permuted together, and the filter is true just if all the other
conjuncts are.
-/

namespace RowEngine

open RowEngine.Expr

namespace Expr

variable {e c d l r : Expr} {width : Nat}

/-- An expression is its only conjunct unless it is an `AND`. -/
theorem conjuncts_eq_singleton_or_and (e : Expr) :
    e.conjuncts = [e] ∨ ∃ l r type, e = binary .and l r type := by
  fun_cases conjuncts e with
  | case1 l r type => exact .inr ⟨l, r, type, rfl⟩
  | case2 => exact .inl rfl

theorem one_lt_length_conjuncts (l r : Expr) (type : DataType) :
    1 < (binary .and l r type).conjuncts.length := by
  have hl := List.length_pos_of_ne_nil (conjuncts_ne_nil l)
  have hr := List.length_pos_of_ne_nil (conjuncts_ne_nil r)
  rw [conjuncts, List.length_append]
  omega

/-- A constructed condition with the conjuncts of a boolean one is boolean: if it is no `AND`, the
two are the same. -/
theorem Constructed.type_of_perm (hd : d.Constructed) (hperm : c.conjuncts.Perm d.conjuncts)
    (hc : c.type = .boolean) : d.type = .boolean := by
  rcases conjuncts_eq_singleton_or_and d with hone | ⟨l, r, type, rfl⟩
  · rw [hone, List.perm_singleton] at hperm
    rcases conjuncts_eq_singleton_or_and c with hsame | ⟨l, r, type, rfl⟩
    · rw [hsame] at hperm
      rwa [← List.singleton_inj.mp hperm]
    · have hlength := one_lt_length_conjuncts l r type
      simp [hperm] at hlength
  · obtain ⟨-, -, hmade⟩ := hd.of_binary
    have hand := and_eq_ok hmade
    cases hand
    rfl

theorem stray?_eq_none_iff : e.stray? width = none ↔ ∀ c ∈ e.conjuncts, c.stray? width = none := by
  fun_induction conjuncts e with
  | case1 l r type ihl ihr =>
    rw [List.forall_mem_append, ← ihl, ← ihr]
    simp only [stray?, references, List.find?_append, Option.or_eq_none_iff]
  | case2 e => simp

/-- Some of the conjuncts of a constructed condition can always be put together. -/
theorem Constructed.exists_conjoin_filter (h : e.Constructed) (p : Expr → Bool) :
    ∃ r, conjoin (e.conjuncts.filter p) = .ok r := by
  by_cases hnone : e.conjuncts.filter p = []
  · exact ⟨none, conjoin_eq_none.mpr hnone⟩
  have hfiltered : e.conjuncts.filter p = [e] ∨ ∀ c ∈ e.conjuncts.filter p, c.Conjoinable := by
    rcases h.conjuncts with hone | hall
    · rw [hone] at hnone ⊢
      cases hp : p e <;> simp_all
    · exact .inr fun c hc => hall c (List.mem_of_mem_filter hc)
  obtain ⟨r, hr⟩ := exists_conjoin hnone hfiltered
  exact ⟨some r, hr⟩

theorem splitQuals_eq (width : Nat) (es : List Expr) : splitQuals width es =
    (es.filter (linksSides width), es.filter fun c => !c.linksSides width) :=
  List.partition_eq_filter_filter

/-- The key pairs are those of all conjuncts that have one. -/
theorem keyPairs_eq_filterMap {es : List Expr} {pairs : List (Nat × Nat)}
    (h : keyPairs width (splitQuals width es).1 = .ok pairs) :
    pairs = es.filterMap (keyPair? width) := by
  have hkeys := keyPairs_eq_ok h
  rw [splitQuals_eq] at hkeys
  calc pairs = (pairs.map some).filterMap id := by simp
    _ = ((es.filter (linksSides width)).map (keyPair? width)).filterMap id := by rw [hkeys]
    _ = es.filterMap (keyPair? width) := by
      rw [List.filterMap_map, List.filterMap_filter]
      refine List.filterMap_congr fun c _ => ?_
      cases hc : keyPair? width c <;> simp [linksSides_eq_isSome, hc]

/-- What was taken for a join qual has a key pair. -/
theorem exists_keyPairs (width : Nat) (es : List Expr) :
    ∃ pairs, keyPairs width (splitQuals width es).1 = .ok pairs := by
  refine exists_mapM fun qual hqual => ?_
  rw [splitQuals_eq] at hqual
  have hlinks := (List.mem_filter.mp hqual).2
  rw [linksSides_eq_isSome, Option.isSome_iff_exists] at hlinks
  obtain ⟨pair, hpair⟩ := hlinks
  exact ⟨pair, by rw [hpair]⟩

end Expr

namespace JoinPlan

section

variable {left right : Schema} {c d : Expr} {targets : Option (List Target)}

/-- What is asked of the conjuncts of a condition, of its type and of the targets. -/
structure Accepts (left right : Schema) (condition : Expr) (targets : Option (List Target)) :
    Prop where
  type : condition.type = .boolean
  inside : ∀ c ∈ condition.conjuncts, c.stray? (left ++ right).size = none
  qual : ∃ c ∈ condition.conjuncts, c.linksSides left.size = true
  checked : ∀ c ∈ condition.conjuncts, ∀ pair, c.keyPair? left.size = some pair →
    checkPair left right pair = .ok ()
  projection : ∃ p, Projection.make (left ++ right) targets = .ok p

theorem Joins.accepts {plan : JoinPlan} {pairs : List (Nat × Nat)}
    (h : plan.Joins left right c targets pairs) : Accepts left right c targets := by
  have hpairs := keyPairs_eq_filterMap h.keys
  constructor
  case type => exact h.type
  case inside => exact stray?_eq_none_iff.mp h.inside
  case qual =>
    have hne : (splitQuals left.size c.conjuncts).1 ≠ [] := by
      intro hnil
      have hqual := h.qual
      rw [hnil] at hqual
      cases hqual
    obtain ⟨qual, hqual⟩ := List.exists_mem_of_ne_nil _ hne
    rw [splitQuals_eq] at hqual
    exact ⟨qual, List.mem_filter.mp hqual⟩
  case checked =>
    intro e he pair hpair
    refine forM_eq_ok.mp h.checked pair ?_
    rw [hpairs]
    exact List.mem_filterMap.mpr ⟨e, he, hpair⟩
  case projection => exact ⟨_, h.projection⟩

/-- A constructed condition is accepted if its conjuncts are: its parts can be put together. -/
theorem Accepts.exists_make (hc : c.Constructed) (h : Accepts left right c targets) :
    ∃ plan, make left right c targets = .ok plan := by
  obtain ⟨pairs, hpairs⟩ := exists_keyPairs left.size c.conjuncts
  have heq := keyPairs_eq_filterMap hpairs
  obtain ⟨e, he, hlinks⟩ := h.qual
  have hne : (splitQuals left.size c.conjuncts).1 ≠ [] := by
    rw [splitQuals_eq]
    exact List.ne_nil_of_mem (List.mem_filter.mpr ⟨he, hlinks⟩)
  have hsome : pairs.isEmpty = false := by
    rw [List.isEmpty_eq_false_iff]
    exact mt (pairs_eq_nil_iff hpairs).mp hne
  have hchecked : pairs.forM (checkPair left right) = .ok () := by
    refine forM_eq_ok.mpr fun pair hpair => ?_
    rw [heq] at hpair
    obtain ⟨e, he, hpair⟩ := List.mem_filterMap.mp hpair
    exact h.checked e he pair hpair
  obtain ⟨qual?, hqual⟩ := hc.exists_conjoin_filter (linksSides left.size)
  obtain ⟨filter, hfilter⟩ := hc.exists_conjoin_filter fun c => !c.linksSides left.size
  obtain ⟨projection, hprojection⟩ := h.projection
  have hstray := stray?_eq_none_iff.mpr h.inside
  rw [splitQuals_eq] at hpairs hne
  cases qual? with
  | none => exact absurd (conjoin_eq_none.mp hqual) hne
  | some qual =>
    refine ⟨⟨left ++ right, qual, filter, projection, pairs.map (·.1), pairs.map (·.2),
      right.size⟩, ?_⟩
    simp only [make, h.type, hstray, splitQuals_eq, hpairs, hsome, hchecked, hqual, hfilter,
      hprojection, bind, Except.bind]
    rfl

/-- The order of the conjuncts makes no difference to whether a join is made. -/
theorem Accepts.of_perm (hd : d.Constructed) (hperm : c.conjuncts.Perm d.conjuncts)
    (h : Accepts left right c targets) : Accepts left right d targets := by
  obtain ⟨e, he, hlinks⟩ := h.qual
  exact ⟨hd.type_of_perm hperm h.type, fun e he => h.inside e (hperm.mem_iff.mpr he),
    ⟨e, hperm.mem_iff.mp he, hlinks⟩, fun e he => h.checked e (hperm.mem_iff.mpr he),
    h.projection⟩

/-- Of two constructed conditions with the same conjuncts, both are accepted or neither is. -/
theorem exists_make_of_perm (hd : d.Constructed) (hperm : c.conjuncts.Perm d.conjuncts)
    (h : ∃ plan, make left right c targets = .ok plan) :
    ∃ plan, make left right d targets = .ok plan := by
  obtain ⟨plan, hplan⟩ := h
  obtain ⟨pairs, hjoins⟩ := joins_of_make hplan
  exact (hjoins.accepts.of_perm hd hperm).exists_make hd

end

/-- Two plans find the same partners for some left rows among some right rows, admit the same pairs
of them and write them in the same way. -/
structure Agrees (p q : JoinPlan) (rights lefts : List Row) : Prop where
  projection : p.projection = q.projection
  rightWidth : p.rightWidth = q.rightWidth
  links : ∀ l r, p.links l r = q.links l r
  admits : ∀ l ∈ lefts, ∀ r ∈ rights, p.admits l r = q.admits l r

namespace Agrees

variable {p q : JoinPlan} {rights lefts : List Row}

theorem output (h : p.Agrees q rights lefts) : p.output = q.output := by
  funext l r
  rw [JoinPlan.output, JoinPlan.output, h.projection]

theorem padding (h : p.Agrees q rights lefts) : p.padding = q.padding := by
  funext l
  rw [JoinPlan.padding, JoinPlan.padding, h.output, h.rightWidth]

theorem streak (h : p.Agrees q rights lefts) {l : Row} (hl : l ∈ lefts) {rest : List Row}
    (hrest : ∀ r ∈ rest, r ∈ rights) : p.streak l rest = q.streak l rest := by
  induction rest with
  | nil => rfl
  | cons r rest ih =>
    rw [List.forall_mem_cons] at hrest
    rw [JoinPlan.streak, JoinPlan.streak, h.admits l hl r hrest.1, h.output, h.padding,
      ih hrest.2]

theorem answer (h : p.Agrees q rights lefts) {l : Row} (hl : l ∈ lefts) :
    p.answer rights l = q.answer rights l := by
  have hpartners : p.partners rights l = q.partners rights l :=
    List.filter_congr fun r _ => h.links l r
  by_cases hnone : q.partners rights l = []
  · rw [answer_of_no_partner hnone, answer_of_no_partner (hpartners.trans hnone), h.padding]
  · rw [answer_of_partners hnone, answer_of_partners (hpartners ▸ hnone), hpartners]
    exact h.streak hl fun r hr => (List.mem_filter.mp hr).1

theorem rows (h : p.Agrees q rights lefts) : p.rows rights lefts = q.rows rights lefts := by
  rw [JoinPlan.rows, JoinPlan.rows, mapM_congr fun l hl => h.answer hl]

end Agrees

section

variable {left right : Schema} {c d : Expr} {targets : Option (List Target)}
  {p q : JoinPlan} {pairs others : List (Nat × Nat)} {rights lefts : List Row}

/-- No residual conjunct of a condition fails on a pair of some rows. -/
def ResidualSucceeds (left right : Schema) (condition : Expr) (rights lefts : List Row) : Prop :=
  ∀ l ∈ lefts, ∀ r ∈ rights, ∀ c ∈ condition.conjuncts, c.linksSides left.size = false →
    ∃ v, (c.eval (left ++ right) (Frame.mk l r).view).result = .ok v

/-- No target fails on a pair of some rows, nor where a left row is padded. -/
def TargetsSucceed (left right : Schema) (targets : Option (List Target))
    (rights lefts : List Row) : Prop :=
  ∀ l ∈ lefts, ∀ r ∈ Row.nulls right.size :: rights, ∀ t ∈ targets.getD [],
    ∃ v, (t.expr.eval (left ++ right) (Frame.mk l r).view).result = .ok v

/-- Where no residual conjunct fails, the filter says whether they are all true. -/
theorem Joins.admits_residual (h : p.Joins left right c targets pairs)
    (hresidual : ResidualSucceeds left right c rights lefts) {l r : Row} (hl : l ∈ lefts)
    (hr : r ∈ rights) :
    p.admits l r = .ok ((c.conjuncts.filter fun e => !e.linksSides left.size).all
      fun e => passed (e.holds (left ++ right) (Frame.mk l r).view).result) := by
  rw [h.admits_eq_all (f := ⟨l, r⟩), splitQuals_eq]
  intro e he
  rw [splitQuals_eq, List.mem_filter, Bool.not_eq_true'] at he
  obtain ⟨v, hv⟩ := hresidual l hl r hr e he.1 he.2
  rw [h.input]
  exact eq_ok_passed (holds_eq_ok.mpr ⟨v, hv, rfl⟩)

/-- Permuting the conjuncts permutes the key columns of both sides together, and the filter still
asks for the same conjuncts. -/
theorem Joins.agrees_of_perm (hp : p.Joins left right c targets pairs)
    (hq : q.Joins left right d targets others) (hperm : c.conjuncts.Perm d.conjuncts)
    (hresidual : ResidualSucceeds left right c rights lefts) : p.Agrees q rights lefts := by
  constructor
  case projection => exact Except.ok.inj (hp.projection.symm.trans hq.projection)
  case rightWidth => rw [hp.rightWidth, hq.rightWidth]
  case links =>
    intro l r
    rw [links_eq_all l r hp.leftKeys hp.rightKeys, links_eq_all l r hq.leftKeys hq.rightKeys,
      keyPairs_eq_filterMap hp.keys, keyPairs_eq_filterMap hq.keys]
    exact (hperm.filterMap _).all_eq
  case admits =>
    intro l hl r hr
    have hothers : ResidualSucceeds left right d rights lefts := fun l hl r hr e he =>
      hresidual l hl r hr e (hperm.mem_iff.mpr he)
    rw [hp.admits_residual hresidual hl hr, hq.admits_residual hothers hl hr,
      (hperm.filter _).all_eq]

/-- Where no residual conjunct and no target fails, every pair of rows is admitted or refused and
can be written. -/
theorem Joins.defined (h : p.Joins left right c targets pairs)
    (hresidual : ResidualSucceeds left right c rights lefts)
    (htargets : TargetsSucceed left right targets rights lefts) : p.Defined rights lefts := by
  constructor
  case admits => exact fun l hl r hr => ⟨_, h.admits_residual hresidual hl hr⟩
  case output => exact fun l hl r hr => h.exists_output (htargets l hl r (by simp [hr]))
  case padding =>
    intro l hl
    rw [padding, h.rightWidth]
    exact h.exists_output (htargets l hl _ (by simp))

end

end JoinPlan

namespace Operator

open JoinPlan

/-- The order of the conjuncts and the brackets around them make no difference. Of two constructed
conditions with the same conjuncts, both are accepted or neither is. If they are, then on rows that
are as wide as their schemas, and on which no residual conjunct and no target fails, both joins hand
out the same rows. -/
theorem collect_leftJoin_of_perm {c d : Expr} (hc : c.Constructed) (hd : d.Constructed)
    (hperm : c.conjuncts.Perm d.conjuncts) (left right : Operator)
    (targets : Option (List Target)) :
    ((∃ p, JoinPlan.make left.schema right.schema c targets = .ok p) ↔
      ∃ q, JoinPlan.make left.schema right.schema d targets = .ok q) ∧
    ∀ p q, JoinPlan.make left.schema right.schema c targets = .ok p →
      JoinPlan.make left.schema right.schema d targets = .ok q →
      ∀ lefts rights, (left.collect false left.start).outcome = .ok lefts →
        (right.collect false right.start).outcome = .ok rights →
        (∀ row ∈ lefts, row.length = left.schema.size) →
        (∀ row ∈ rights, row.length = right.schema.size) →
        ResidualSucceeds left.schema right.schema c rights lefts →
        TargetsSucceed left.schema right.schema targets rights lefts →
        ∃ out,
          ((left.leftJoin right p).collect false (left.leftJoin right p).start).outcome =
              .ok out ∧
            ((left.leftJoin right q).collect false (left.leftJoin right q).start).outcome =
              .ok out := by
  refine ⟨⟨exists_make_of_perm hd hperm, exists_make_of_perm hc hperm.symm⟩, ?_⟩
  intro p q hp hq lefts rights hleft hright hlefts hrights hresidual htargets
  obtain ⟨pairs, hpJoins⟩ := joins_of_make hp
  obtain ⟨others, hqJoins⟩ := joins_of_make hq
  obtain ⟨out, hout⟩ := (hpJoins.defined hresidual htargets).exists_rows fun _ hr => hr
  have hsame := (hpJoins.agrees_of_perm hqJoins hperm hresidual).rows
  exact ⟨out, collect_leftJoin_rows hp hleft hright hlefts hrights hout,
    collect_leftJoin_rows hq hleft hright hlefts hrights (hsame.symm.trans hout)⟩

/-- An equality and a comparison, in both orders. -/
theorem collect_leftJoin_of_perm_integers :
    let left := Operator.scan (.ofIntegers "a" [1, 2])
    let right := Operator.scan (.ofIntegers "b" [2, 2])
    let a := Expr.column 0 .integer "a"
    let same := Expr.binary .equal a (.column 1 .integer "b") .boolean
    let small := Expr.binary .less a (.const (.integer 2)) .boolean
    let c := Expr.binary .and same small .boolean
    let d := Expr.binary .and small same .boolean
    c.Constructed ∧ d.Constructed ∧ c.conjuncts.Perm d.conjuncts ∧
      ∃ p q out, JoinPlan.make left.schema right.schema c none = .ok p ∧
        JoinPlan.make left.schema right.schema d none = .ok q ∧
        ((left.leftJoin right p).collect false (left.leftJoin right p).start).outcome = .ok out ∧
        ((left.leftJoin right q).collect false (left.leftJoin right q).start).outcome =
          .ok out := by
  intro left right a same small c d
  have ha : a.Constructed := @ConstructedIn.columnAt .any (left.schema ++ right.schema) 0 _ trivial rfl
  have hb : (Expr.column 1 .integer "b").Constructed :=
    @ConstructedIn.columnAt .any (left.schema ++ right.schema) 1 _ trivial rfl
  have hsame : same.Constructed := @ConstructedIn.binary .any .equal _ _ _ ha hb rfl
  have hsmall : small.Constructed := @ConstructedIn.binary .any .less _ _ _ ha (.const (.integer 2)) rfl
  have hc : c.Constructed := @ConstructedIn.binary .any .and _ _ _ hsame hsmall rfl
  have hd : d.Constructed := @ConstructedIn.binary .any .and _ _ _ hsmall hsame rfl
  have hperm : c.conjuncts.Perm d.conjuncts := .swap small same []
  have hresidual : ResidualSucceeds left.schema right.schema c (Relation.ofIntegers "b" [2, 2]).rows
      (Relation.ofIntegers "a" [1, 2]).rows := by
    intro l hl r hr e he _
    obtain ⟨m, -, rfl⟩ := List.mem_map.mp hl
    obtain ⟨n, -, rfl⟩ := List.mem_map.mp hr
    have he : e ∈ [same, small] := he
    simp only [List.mem_cons, List.not_mem_nil, or_false] at he
    rcases he with rfl | rfl <;> exact ⟨_, rfl⟩
  obtain ⟨-, hrows⟩ := collect_leftJoin_of_perm hc hd hperm left right none
  obtain ⟨out, hp, hq⟩ := hrows _ _ rfl rfl _ _ (collect_scan _) (collect_scan _) (Relation.full _)
    (Relation.full _) hresidual (by simp [TargetsSucceed])
  exact ⟨hc, hd, hperm, _, _, out, rfl, rfl, hp, hq⟩

end Operator

end RowEngine
