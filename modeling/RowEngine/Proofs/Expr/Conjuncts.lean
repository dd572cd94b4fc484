import RowEngine.Expr.Conjuncts
import RowEngine.Expr.Eval
import RowEngine.Proofs.Expr.Build

/-!
# The truth of conjunctions

A condition is true just if all of its conjuncts are, whichever of them are unknown, as long as none
of them fails. So a condition may be taken apart and put together in another order.
-/

namespace RowEngine

/-- Unknown counts as not true on either side. -/
theorem Value.isTrue_and3 (a b : Value) : (a.and3 b).isTrue = (a.isTrue && b.isTrue) := by
  unfold and3
  split <;> simp_all [isTrue]
  rename_i h₁ h₂ h₃
  cases a <;> cases b <;> simp_all

namespace Expr

variable {schema : Schema} {row : RowView} {e l r : Expr}

theorem holds_eq_ok {b : Bool} :
    (e.holds schema row).result = .ok b ↔
      ∃ v, (e.eval schema row).result = .ok v ∧ v.isTrue = b := by
  simp [holds, bind_eq_ok]

/-- The right side of an `AND` that is left out makes no difference. -/
theorem holds_and {p q : Bool} {type : DataType} (hl : (l.holds schema row).result = .ok p)
    (hr : (r.holds schema row).result = .ok q) :
    ((binary .and l r type).holds schema row).result = .ok (p && q) := by
  obtain ⟨a, ha, rfl⟩ := holds_eq_ok.mp hl
  obtain ⟨b, hb, rfl⟩ := holds_eq_ok.mp hr
  rw [holds_eq_ok]
  cases hdecided : BinaryOp.and.decided? a with
  | some v =>
    refine ⟨v, ?_, ?_⟩
    · simp [eval, ha, hdecided, bind, Except.bind]
    · unfold BinaryOp.decided? at hdecided
      split at hdecided <;> simp_all [Value.isTrue]
      rw [← hdecided]
  | none =>
    refine ⟨a.and3 b, ?_, Value.isTrue_and3 a b⟩
    simp [eval, ha, hdecided, hb, bind, Except.bind, Traced.ofExcept, BinaryOp.apply]

/-- A condition none of whose conjuncts fails is true just if they all are. -/
theorem holds_conjuncts {truth : Expr → Bool}
    (h : ∀ c ∈ e.conjuncts, (c.holds schema row).result = .ok (truth c)) :
    (e.holds schema row).result = .ok (e.conjuncts.all truth) := by
  fun_induction conjuncts e with
  | case1 left right type ihl ihr =>
    rw [List.all_append]
    exact holds_and (ihl fun c hc => h c (by simp [hc])) (ihr fun c hc => h c (by simp [hc]))
  | case2 e => simpa using h e (by simp)

theorem conjoin_eq_none {es : List Expr} : conjoin es = .ok none ↔ es = [] := by
  cases es with
  | nil => simp [conjoin]
  | cons first rest =>
    cases h : rest.foldlM and first <;> simp [conjoin, h, bind, Except.bind, pure, Except.pure]

theorem conjoin_cons {first : Expr} {rest : List Expr} :
    conjoin (first :: rest) = .ok (some e) ↔ rest.foldlM and first = .ok e := by
  cases h : rest.foldlM and first <;> simp [conjoin, h, bind, Except.bind, pure, Except.pure]

theorem foldlM_and_nil (h : [].foldlM and l = .ok e) : l = e := by
  simpa [pure, Except.pure] using h

/-- What comes next is joined to what is there. -/
theorem foldlM_and_cons {c : Expr} {rest : List Expr} (h : (c :: rest).foldlM and l = .ok e) :
    rest.foldlM and (binary .and l c .boolean) = .ok e := by
  rw [List.foldlM_cons, bind_eq_ok] at h
  obtain ⟨both, hboth, h⟩ := h
  obtain rfl := and_eq_ok hboth
  exact h

/-- Where no conjunct fails, the conjunction is true just if all of them are. -/
theorem holds_foldlM_and {truth : Expr → Bool} {es : List Expr} {p : Bool}
    (hc : es.foldlM and l = .ok e) (hl : (l.holds schema row).result = .ok p)
    (h : ∀ c ∈ es, (c.holds schema row).result = .ok (truth c)) :
    (e.holds schema row).result = .ok (p && es.all truth) := by
  induction es generalizing l p with
  | nil =>
    obtain rfl := foldlM_and_nil hc
    simpa using hl
  | cons c rest ih =>
    rw [List.all_cons, ← Bool.and_assoc]
    exact ih (foldlM_and_cons hc) (holds_and hl (h c (by simp))) fun d hd => h d (by simp [hd])

/-- Conditions that are joined are true just if each of them is. -/
theorem holds_conjoin {truth : Expr → Bool} {es : List Expr} (hc : conjoin es = .ok (some e))
    (h : ∀ c ∈ es, (c.holds schema row).result = .ok (truth c)) :
    (e.holds schema row).result = .ok (es.all truth) := by
  cases es with
  | nil => simp [conjoin] at hc
  | cons first rest =>
    exact holds_foldlM_and (conjoin_cons.mp hc) (h first (by simp)) fun c hc => h c (by simp [hc])

/-- The conjuncts that are told to link the sides of a join are those that give a key pair. -/
theorem linksSides_eq_isSome (width : Nat) (e : Expr) :
    e.linksSides width = (e.keyPair? width).isSome := by
  unfold linksSides keyPair?
  cases e.equalColumns? with
  | none => rfl
  | some columns =>
    obtain ⟨a, b⟩ := columns
    rw [Option.any_some]
    dsimp only
    by_cases ha : a < width
    · have hleft : ¬ width ≤ a := by omega
      by_cases hb : b < width
      · simp [ha, hb, hleft, show ¬ width ≤ b by omega]
      · simp [ha, hb, show width ≤ b by omega]
    · by_cases hb : b < width
      · simp [ha, hb, show width ≤ a by omega]
      · simp [ha, hb]

theorem mem_of_mem_quals {width : Nat} {es : List Expr} {e : Expr}
    (h : e ∈ (splitQuals width es).1) : e ∈ es := by
  rw [splitQuals, List.partition_eq_filter_filter] at h
  exact (List.mem_filter.mp h).1

theorem mem_of_mem_residual {width : Nat} {es : List Expr} {e : Expr}
    (h : e ∈ (splitQuals width es).2) : e ∈ es := by
  rw [splitQuals, List.partition_eq_filter_filter] at h
  exact (List.mem_filter.mp h).1

/-- Where the conjuncts are put makes no difference. -/
theorem all_splitQuals (width : Nat) (es : List Expr) (truth : Expr → Bool) :
    ((splitQuals width es).1.all truth && (splitQuals width es).2.all truth) = es.all truth := by
  rw [splitQuals, List.partition_eq_filter_filter]
  induction es with
  | nil => rfl
  | cons e rest ih =>
    rw [List.all_cons, ← ih]
    by_cases he : linksSides width e = true
    · simp [he, Bool.and_assoc]
    · simp [he, Bool.and_left_comm]

end Expr

end RowEngine
