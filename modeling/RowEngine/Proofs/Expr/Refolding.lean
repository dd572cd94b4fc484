import RowEngine.Proofs.Expr.Conjuncts

/-!
# Conditions taken apart and put together again

Putting the conjuncts of a condition together again makes a tree that leans left, whatever the
brackets in the condition were. The tree has the same conjuncts, and evaluating it is the same in
every respect: an `AND` that is left out of one tree is left out of the other, so both give one
result and make the same calls in one order.
-/

namespace RowEngine

namespace Value

variable {a b : Value}

/-- Falsehood of one side settles a conjunction, truth of both makes it true, and all else is
unknown. -/
theorem and3_eq_ite (a b : Value) : a.and3 b =
    if a = boolean false ∨ b = boolean false then boolean false
    else if a = boolean true ∧ b = boolean true then boolean true else null := by
  unfold and3
  split <;> simp_all

theorem and3_assoc (a b c : Value) : (a.and3 b).and3 c = a.and3 (b.and3 c) := by
  simp only [and3_eq_ite]
  grind

theorem and3_false (a : Value) : a.and3 (boolean false) = boolean false := by
  simp [and3_eq_ite]

theorem and3_ne_false (ha : a ≠ boolean false) (hb : b ≠ boolean false) :
    a.and3 b ≠ boolean false := by
  rw [and3_eq_ite, if_neg (by simp [ha, hb])]
  split <;> simp

end Value

/-- The sides of an `AND` are conditions. -/
theorem BinaryOp.Types.of_and {a b type : DataType} (h : BinaryOp.and.Types a b type) :
    a.isCondition = true ∧ b.isCondition = true := by
  cases h with
  | logical _ ha hb => exact ⟨ha, hb⟩
  | arithmetic h => cases h
  | comparison h => cases h

namespace Expr

variable {schema : Schema} {row : RowView} {e l r : Expr} {es : List Expr}

theorem conjuncts_ne_nil (e : Expr) : e.conjuncts ≠ [] := by
  fun_induction conjuncts e with
  | case1 left right type ihl ihr => simp [ihl]
  | case2 e => simp

/-- What is a conjunct already falls into no further conjuncts. -/
theorem conjuncts_of_mem {c : Expr} (hc : c ∈ e.conjuncts) : c.conjuncts = [c] := by
  fun_induction Expr.conjuncts e with
  | case1 left right type ihl ihr => exact (List.mem_append.mp hc).elim ihl ihr
  | case2 e hand =>
    obtain rfl := List.mem_singleton.mp hc
    exact conjuncts.eq_2 c hand

/-- Folded up, conjuncts come apart again in the order in which they were folded. -/
theorem conjuncts_foldlM_and (h : es.foldlM and l = .ok e) (hes : ∀ c ∈ es, c.conjuncts = [c]) :
    e.conjuncts = l.conjuncts ++ es := by
  induction es generalizing l with
  | nil =>
    obtain rfl := foldlM_and_nil h
    simp
  | cons c rest ih =>
    rw [ih (foldlM_and_cons h) fun d hd => hes d (by simp [hd]), conjuncts, hes c (by simp),
      List.append_assoc, List.singleton_append]

/-- Conditions that are no `AND`s are the conjuncts of what they are put together to. -/
theorem conjuncts_conjoin (h : conjoin es = .ok (some e)) (hes : ∀ c ∈ es, c.conjuncts = [c]) :
    e.conjuncts = es := by
  cases es with
  | nil => cases h
  | cons first rest =>
    rw [List.forall_mem_cons] at hes
    rw [conjuncts_foldlM_and (conjoin_cons.mp h) hes.2, hes.1, List.singleton_append]

/-- `AND` of two sides, the second of which is left out if the first is false. -/
def evalAnd (x y : Evaluation Value) : Evaluation Value :=
  x.bind fun a => if a = .boolean false then .ok a else y.bind fun b => .ok (a.and3 b)

/-- The right side is evaluated only if the left one does not settle the value. -/
theorem eval_and (type : DataType) : (binary .and l r type).eval schema row =
    evalAnd (l.eval schema row) (r.eval schema row) := by
  rw [eval]
  refine congrArg (l.eval schema row).bind ?_
  funext a
  by_cases ha : a = .boolean false
  · subst ha
    rfl
  · have hdecided : BinaryOp.and.decided? a = none := by
      unfold BinaryOp.decided?
      split <;> simp_all
    rw [hdecided, if_neg ha]
    rfl

/-- The brackets of two `AND`s make no difference: the third side is left out either way if one of
the others is false, and it is evaluated after them if none is. -/
theorem evalAnd_assoc (x y z : Evaluation Value) :
    evalAnd (evalAnd x y) z = evalAnd x (evalAnd y z) := by
  unfold evalAnd
  rw [Traced.bind_assoc]
  refine congrArg x.bind ?_
  funext a
  by_cases ha : a = .boolean false
  · simp [ha]
  · simp only [if_neg ha, Traced.bind_assoc]
    refine congrArg y.bind ?_
    funext b
    by_cases hb : b = .boolean false
    · simp [hb, Value.and3_false]
    · simp [if_neg hb, if_neg (Value.and3_ne_false ha hb), Traced.bind_assoc, Value.and3_assoc]

/-- The value of a conjunction whose first side is there already. -/
theorem eval_foldlM_and (h : es.foldlM and l = .ok e) : e.eval schema row =
    es.foldl (fun x c => evalAnd x (c.eval schema row)) (l.eval schema row) := by
  induction es generalizing l with
  | nil =>
    obtain rfl := foldlM_and_nil h
    rfl
  | cons c rest ih => rw [ih (foldlM_and_cons h), eval_and, List.foldl_cons]

/-- `x AND (left AND right)` is `(x AND left) AND right`, and each side goes on from there. -/
theorem evalAnd_conjuncts (x : Evaluation Value) (e : Expr) : evalAnd x (e.eval schema row) =
    e.conjuncts.foldl (fun x c => evalAnd x (c.eval schema row)) x := by
  fun_induction conjuncts e generalizing x with
  | case1 left right type ihl ihr =>
    rw [eval_and, ← evalAnd_assoc, ihl, ihr, List.foldl_append]
  | case2 e => rfl

/-- The conjuncts, evaluated one after another from the first on, make up the condition. -/
theorem eval_of_conjuncts {first : Expr} {rest : List Expr} (h : e.conjuncts = first :: rest) :
    e.eval schema row =
      rest.foldl (fun x c => evalAnd x (c.eval schema row)) (first.eval schema row) := by
  fun_induction conjuncts e generalizing rest with
  | case1 left right type ihl ihr =>
    rcases List.append_eq_cons_iff.mp h with ⟨hleft, -⟩ | ⟨others, hleft, rfl⟩
    · exact absurd hleft (conjuncts_ne_nil left)
    · rw [eval_and, ihl hleft, evalAnd_conjuncts, List.foldl_append]
  | case2 e =>
    obtain ⟨rfl, rfl⟩ := List.cons.inj h
    rfl

/-- Putting the conjuncts of a condition together again does not change its evaluation. -/
theorem eval_conjoin_conjuncts (h : conjoin e.conjuncts = .ok (some r)) :
    r.eval schema row = e.eval schema row := by
  cases hconjuncts : e.conjuncts with
  | nil => exact absurd hconjuncts (conjuncts_ne_nil e)
  | cons first rest =>
    rw [hconjuncts, conjoin_cons] at h
    rw [eval_foldlM_and h, eval_of_conjuncts hconjuncts]

/-- What may stand on a side of an `AND`. -/
def Conjoinable (e : Expr) : Prop :=
  e.type.isCondition = true ∧ e.isRowConst = false

theorem binaryOf_of_conjoinable {op : BinaryOp} (hop : op.isLogical = true)
    (hl : l.Conjoinable) (hr : r.Conjoinable) : binaryOf op l r = .ok (binary op l r .boolean) := by
  have hside {e : Expr} (he : e.Conjoinable) (context : String) : asCondition context e = .ok e :=
    asCondition_eq_ok.mpr ⟨he.1, he.2, rfl⟩
  simp [binaryOf, hop, hside hl, hside hr, bind, Except.bind, pure, Except.pure]

theorem and_of_conjoinable (hl : l.Conjoinable) (hr : r.Conjoinable) :
    and l r = .ok (binary .and l r .boolean) :=
  binaryOf_of_conjoinable rfl hl hr

theorem foldlM_and_of_conjoinable (hl : l.Conjoinable) (h : ∀ c ∈ es, c.Conjoinable) :
    ∃ e, es.foldlM and l = .ok e := by
  induction es generalizing l with
  | nil => exact ⟨l, rfl⟩
  | cons c rest ih =>
    obtain ⟨e, he⟩ := ih (l := binary .and l c .boolean) ⟨rfl, rfl⟩ fun d hd => h d (by simp [hd])
    exact ⟨e, bind_eq_ok.mpr ⟨_, and_of_conjoinable hl (h c (by simp)), he⟩⟩

/-- A single condition is always put together, and so are conditions that may be joined. -/
theorem exists_conjoin (hne : es ≠ []) (h : es = [e] ∨ ∀ c ∈ es, c.Conjoinable) :
    ∃ r, conjoin es = .ok (some r) := by
  obtain ⟨first, rest, rfl⟩ := List.exists_cons_of_ne_nil hne
  rcases h with hone | hall
  · obtain ⟨-, rfl⟩ := List.cons.inj hone
    exact ⟨first, rfl⟩
  · rw [List.forall_mem_cons] at hall
    obtain ⟨r, hr⟩ := foldlM_and_of_conjoinable hall.1 hall.2
    exact ⟨r, conjoin_cons.mpr hr⟩

theorem conjoinable_of_mem {c : Expr} (h : e.conjuncts = [e] ∨ ∀ c ∈ e.conjuncts, c.Conjoinable)
    (he : e.Conjoinable) (hc : c ∈ e.conjuncts) : c.Conjoinable := by
  rcases h with hone | hall
  · rw [hone, List.mem_singleton] at hc
    exact hc ▸ he
  · exact hall c hc

/-- An `AND` that was constructed has constructed sides that may be joined. -/
theorem Constructed.sides {type : DataType} (h : (Expr.binary .and l r type).Constructed) :
    (l.Constructed ∧ l.Conjoinable) ∧ r.Constructed ∧ r.Conjoinable := by
  obtain ⟨hl, hr, hmade⟩ := h.of_binary
  obtain ⟨_, -, hlscalar, hrscalar, htypes⟩ := binaryOf_eq_ok hmade
  obtain ⟨hltype, hrtype⟩ := htypes.of_and
  exact ⟨⟨hl, hltype, hlscalar⟩, hr, hrtype, hrscalar⟩

/-- A constructed expression is its own conjunct or an `AND` all of whose conjuncts may be
joined. -/
theorem Constructed.conjuncts (h : e.Constructed) :
    e.conjuncts = [e] ∨ ∀ c ∈ e.conjuncts, c.Conjoinable := by
  fun_induction Expr.conjuncts e with
  | case1 left right type ihl ihr =>
    obtain ⟨⟨hleft, hjoinl⟩, hright, hjoinr⟩ := h.sides
    right
    intro c hc
    rcases List.mem_append.mp hc with hc | hc
    · exact conjoinable_of_mem (ihl hleft) hjoinl hc
    · exact conjoinable_of_mem (ihr hright) hjoinr hc
  | case2 e => exact .inl rfl

/-- Whatever the brackets of a constructed condition are, its conjuncts can be put together again,
and on every row the result has the value or the error of the condition and makes the same calls. -/
theorem eval_refold (h : e.Constructed) : ∃ r, conjoin e.conjuncts = .ok (some r) ∧
    ∀ schema row, r.eval schema row = e.eval schema row := by
  obtain ⟨r, hr⟩ := exists_conjoin (conjuncts_ne_nil e) h.conjuncts
  exact ⟨r, hr, fun _ _ => eval_conjoin_conjuncts hr⟩

/-- The condition `true AND (NULL AND 1 / 0 = 1)`. -/
def divisionBehindNull : Expr :=
  binary .and (const (.boolean true)) (binary .and (const .null) (binary .equal
    (binary .divide (const (.integer 1)) (const (.integer 0)) .integer) (const (.integer 1))
    .boolean) .boolean) .boolean

/-- An unknown conjunct in front does not keep the error of the next one away, with either
brackets. -/
theorem eval_refold_division : divisionBehindNull.Constructed ∧
    ∃ r, conjoin divisionBehindNull.conjuncts = .ok (some r) ∧
      ∀ schema row, r.eval schema row = .error .divisionByZero := by
  have hquotient :=
    @ConstructedIn.binary .any .divide _ _ _ (.const (.integer 1)) (.const (.integer 0)) rfl
  have hequal := @ConstructedIn.binary .any .equal _ _ _ hquotient (.const (.integer 1)) rfl
  have hinner := @ConstructedIn.binary .any .and _ _ _ (.const .null) hequal rfl
  have h : divisionBehindNull.Constructed :=
    @ConstructedIn.binary .any .and _ _ _ (.const (.boolean true)) hinner rfl
  obtain ⟨r, hr, heval⟩ := eval_refold h
  exact ⟨h, r, hr, fun schema row => (heval schema row).trans rfl⟩

end Expr

end RowEngine
