import RowEngine.Proofs.Expr.Refusing
import RowEngine.Proofs.Join.Condition

/-!
# What a join plan refuses

A condition that reads no column outside the joined row has conjuncts that read none either, so the
two columns of every join qual are there. This is why the checks behind the first one never come
upon a missing column, whatever tree the condition is.
-/

namespace RowEngine

namespace Expr

variable {e c qual : Expr} {width leftWidth rightWidth : Nat} {pair : Nat × Nat} {ref : ColumnRef}

theorem references_of_mem_conjuncts (hc : c ∈ e.conjuncts) (href : ref ∈ c.references) :
    ref ∈ e.references := by
  fun_induction conjuncts e with
  | case1 left right type ihl ihr =>
    rw [references]
    rcases List.mem_append.mp hc with hc | hc
    · exact List.mem_append_left _ (ihl hc)
    · exact List.mem_append_right _ (ihr hc)
  | case2 e =>
    obtain rfl := List.mem_singleton.mp hc
    exact href

theorem lt_of_stray?_eq_none (h : e.stray? width = none) (href : ref ∈ e.references) :
    ref.id < width := by
  have hinside := List.find?_eq_none.mp h ref href
  rw [decide_eq_true_eq] at hinside
  exact Nat.lt_of_not_le hinside

/-- The columns of a join qual are in the joined row, so each is in the row of its side. -/
theorem keyPair?_lt (hqual : qual.keyPair? leftWidth = some pair)
    (hrefs : ∀ ref ∈ qual.references, ref.id < leftWidth + rightWidth) :
    pair.1 < leftWidth ∧ pair.2 < rightWidth := by
  obtain ⟨i, j, s, t, m, n, type, rfl, hsides⟩ := keyPair?_eq_some hqual
  have hi : i < leftWidth + rightWidth := hrefs ⟨i, m⟩ (by simp [references])
  have hj : j < leftWidth + rightWidth := hrefs ⟨j, n⟩ (by simp [references])
  omega

theorem refuses_keyPairs (leftWidth : Nat) (quals : List Expr) :
    Refuses (keyPairs leftWidth quals) := by
  refine FailsOnly.mapM fun qual _ => ?_
  split
  · exact .ok _
  · exact .error rfl

theorem mem_of_keyPairs {quals : List Expr} {pairs : List (Nat × Nat)}
    (h : keyPairs leftWidth quals = .ok pairs) (hpair : pair ∈ pairs) :
    ∃ qual ∈ quals, qual.keyPair? leftWidth = some pair := by
  have hmem : some pair ∈ quals.map (keyPair? leftWidth) := by
    rw [keyPairs_eq_ok h]
    exact List.mem_map_of_mem hpair
  exact List.mem_map.mp hmem

end Expr

open RowEngine.Expr

theorem Projection.refuses_make (input : Schema) (targets : Option (List Target)) :
    Refuses (make input targets) := by
  cases targets with
  | none => exact .ok _
  | some targets =>
    unfold make ofTargets
    dsimp only
    split
    · exact .error rfl
    · exact .ok _

namespace JoinPlan

variable {left right : Schema} {condition : Expr} {targets : Option (List Target)}

theorem refuses_checkPair {pair : Nat × Nat} (hleft : pair.1 < left.size)
    (hright : pair.2 < right.size) : Refuses (checkPair left right pair) := by
  have hl : left.column? pair.1 = some left.columns[pair.1] := List.getElem?_eq_getElem hleft
  have hr : right.column? pair.2 = some right.columns[pair.2] := List.getElem?_eq_getElem hright
  simp only [checkPair, hl, hr]
  split
  · exact .ok ()
  · exact .error rfl

/-- The key pairs of a condition that reads no column outside the joined row. -/
theorem keyPairs_inside (hinside : condition.stray? (left ++ right).size = none)
    {pairs : List (Nat × Nat)}
    (hpairs : keyPairs left.size (splitQuals left.size condition.conjuncts).1 = .ok pairs) :
    ∀ pair ∈ pairs, pair.1 < left.size ∧ pair.2 < right.size := by
  intro pair hpair
  obtain ⟨qual, hqual, hkeys⟩ := mem_of_keyPairs hpairs hpair
  refine keyPair?_lt hkeys ?_
  intro ref href
  rw [← Schema.size_append]
  exact lt_of_stray?_eq_none hinside (references_of_mem_conjuncts (mem_of_mem_quals hqual) href)

/-- Where there is a key pair, there is a qual that it came from. -/
theorem pairs_eq_nil_iff {quals : List Expr} {pairs : List (Nat × Nat)}
    (hpairs : keyPairs left.size quals = .ok pairs) : pairs = [] ↔ quals = [] := by
  rw [← List.length_eq_zero_iff, ← List.length_eq_zero_iff, length_mapM hpairs]

/-- The case split is on the checks of a plan, in their order. A plan with key pairs has quals, so
the branch for a missing qual is not reached. -/
theorem refuses_make (left right : Schema) (condition : Expr) (targets : Option (List Target)) :
    Refuses (make left right condition targets) := by
  unfold make
  dsimp only
  split
  · exact .error rfl
  split
  · exact .error rfl
  rename_i hstray
  have hinside : condition.stray? (left ++ right).size = none :=
    Option.eq_none_iff_forall_ne_some.mpr hstray
  refine (refuses_keyPairs _ _).bind fun pairs hpairs => ?_
  split
  · exact .error rfl
  rename_i hsome
  have hin := keyPairs_inside hinside hpairs
  refine (FailsOnly.forM fun pair hpair => ?_).bind fun _ _ => ?_
  · exact refuses_checkPair (hin pair hpair).1 (hin pair hpair).2
  refine (refuses_conjoin _).bind fun qual? hqual => ?_
  cases qual? with
  | none =>
    rw [conjoin_eq_none, ← pairs_eq_nil_iff hpairs] at hqual
    simp [hqual] at hsome
  | some qual =>
    exact (refuses_conjoin _).bind fun _ _ => (Projection.refuses_make _ _).bind fun _ _ => .ok _

/-- The keys of both sides of a join: one pair at least, and each of two columns that are there and
have one type. -/
structure KeysMatch (plan : JoinPlan) (left right : Schema) : Prop where
  ne_nil : plan.leftKeys ≠ []
  length_eq : plan.leftKeys.length = plan.rightKeys.length
  column : ∀ pair ∈ plan.leftKeys.zip plan.rightKeys, ∃ l r,
    left.column? pair.1 = some l ∧ right.column? pair.2 = some r ∧ l.type = r.type

/-- The key columns are there on both sides and pairwise of one type. -/
theorem Joins.keysMatch {plan : JoinPlan} {pairs : List (Nat × Nat)}
    (h : plan.Joins left right condition targets pairs) : plan.KeysMatch left right := by
  have hpairs : pairs ≠ [] := by
    intro hnil
    have hqual := h.qual
    rw [(pairs_eq_nil_iff h.keys).mp hnil] at hqual
    cases hqual
  have hzip : plan.leftKeys.zip plan.rightKeys = pairs := by
    rw [h.leftKeys, h.rightKeys, List.zip_map']
    exact List.map_id pairs
  constructor
  case ne_nil => simpa [h.leftKeys] using hpairs
  case length_eq => simp [h.leftKeys, h.rightKeys]
  case column =>
    rw [hzip]
    exact fun pair hpair => h.columns hpair

end JoinPlan

end RowEngine
