import RowEngine.Proofs.Expr.Refolding
import RowEngine.Proofs.Expr.Typing

/-!
# Predicates written out

`BETWEEN` is two comparisons joined by `AND`, and `IN` is an equality with each item of its list,
all joined by `OR` with any brackets. Nulls make no difference, neither as the value that is looked
for nor in the list. The negated form of a predicate is `NOT` in front of its plain form, also where
evaluation fails.
-/

namespace RowEngine

namespace Value

variable {a b v w : Value} {items others : List Value}

theorem or3_true_left (b : Value) : (boolean true).or3 b = boolean true := by
  cases b <;> rfl

/-- Being in one of two lists. -/
theorem isIn_append (v : Value) (items others : List Value) :
    v.isIn (items ++ others) = (v.isIn items).or3 (v.isIn others) := by
  simp only [isIn, List.any_append]
  cases v.isNull with
  | true => rfl
  | false =>
    cases items.any fun item => !item.isNull && (v.compare item).isEq with
    | true => simp [or3_true_left]
    | false =>
      cases others.any fun item => !item.isNull && (v.compare item).isEq <;>
        cases items.any isNull <;> cases others.any isNull <;> rfl

theorem isIn_singleton (v w : Value) : v.isIn [w] = v.compare3 Ordering.isEq w := by
  simp only [isIn, compare3, List.any_cons, List.any_nil, Bool.or_false]
  cases v.isNull <;> cases w.isNull <;> cases (v.compare w).isEq <;> rfl

theorem negation_of_fits (h : v.Fits .boolean) : v.negation = .ok v.not3 := by
  rcases h with rfl | h
  · rfl
  · cases v <;> first | rfl | cases h

end Value

namespace Expr

variable {schema : Schema} {row : RowView} {x low high l r e : Expr} {a b v : Value}
  {items others : List Value} {op : BinaryOp} {negated : Bool}

theorem result_and (hl : (l.eval schema row).result = .ok a)
    (hr : (r.eval schema row).result = .ok b) (type : DataType) :
    ((binary .and l r type).eval schema row).result = .ok (a.and3 b) := by
  rw [eval_and, evalAnd, Traced.result_bind, hl]
  by_cases ha : a = .boolean false
  · simp [ha, bind, Except.bind, Value.and3]
  · simp [ha, hr, bind, Except.bind]

theorem result_or (hl : (l.eval schema row).result = .ok a)
    (hr : (r.eval schema row).result = .ok b) (type : DataType) :
    ((binary .or l r type).eval schema row).result = .ok (a.or3 b) := by
  rw [eval, Traced.bind_eq, Traced.result_bind, hl]
  by_cases ha : a = .boolean true
  · subst ha
    rw [Value.or3_true_left]
    rfl
  · have hdecided : BinaryOp.or.decided? a = none := by
      unfold BinaryOp.decided?
      split <;> simp_all
    simp [hdecided, hr, bind, Except.bind, Traced.ofExcept, BinaryOp.apply]

theorem result_of_error {err : EvalError} (hl : (l.eval schema row).result = .error err)
    (op : BinaryOp) (r : Expr) (type : DataType) :
    ((binary op l r type).eval schema row).result = .error err := by
  rw [eval, Traced.bind_eq, Traced.result_bind, hl]
  rfl

/-- The condition `x >= low AND x <= high`. -/
def withinBounds (x low high : Expr) : Expr :=
  binary .and (binary .greaterEqual x low .boolean) (binary .lessEqual x high .boolean) .boolean

theorem result_within (hx : (x.eval schema row).result = .ok v)
    (hlow : (low.eval schema row).result = .ok a) (hhigh : (high.eval schema row).result = .ok b) :
    ((withinBounds x low high).eval schema row).result =
      .ok ((v.compare3 Ordering.isGE a).and3 (v.compare3 Ordering.isLE b)) := by
  refine result_and ?_ ?_ _
  · rw [result_binary rfl, hx, hlow]
    rfl
  · rw [result_binary rfl, hx, hhigh]
    rfl

/-- `AND` leaves the upper bound out where the lower one is not met, so it matters that the upper
bound does not fail. -/
theorem result_between (x low : Expr) (hhigh : (high.eval schema row).result = .ok b) :
    ((between x low high false).eval schema row).result =
      ((withinBounds x low high).eval schema row).result := by
  rw [eval]
  simp only [Traced.bind_eq, Traced.result_bind, hhigh]
  cases hx : (x.eval schema row).result with
  | error err => exact (result_of_error (result_of_error hx _ _ _) _ _ _).symm
  | ok v =>
    cases hlow : (low.eval schema row).result with
    | error err =>
      have hlower : ((binary .greaterEqual x low .boolean).eval schema row).result =
          .error err := by
        rw [result_binary rfl, hx, hlow]
        rfl
      exact (result_of_error hlower _ _ _).symm
    | ok a => exact (result_within hx hlow hhigh).symm

/-- A condition `x = v₁ OR ... OR x = vₙ` over the values of a list, with brackets in any places. -/
inductive Disjoins (x : Expr) : List Value → Expr → Prop where
  | equal (v : Value) : Disjoins x [v] (binary .equal x (const v) .boolean)
  | or {items others : List Value} {l r : Expr} (hl : Disjoins x items l)
      (hr : Disjoins x others r) : Disjoins x (items ++ others) (binary .or l r .boolean)

/-- Comparing with one item after another is looking for the value in the list. -/
theorem Disjoins.result (h : Disjoins x items e) : (e.eval schema row).result =
    (x.eval schema row).result.map (·.isIn items) := by
  cases hx : (x.eval schema row).result with
  | error err =>
    induction h with
    | equal v => exact result_of_error hx _ _ _
    | or _ _ ihl _ => exact result_of_error ihl _ _ _
  | ok v =>
    induction h with
    | equal w =>
      rw [result_binary rfl, hx, Except.map, Value.isIn_singleton]
      rfl
    | or _ _ ihl ihr =>
      rw [result_or ihl ihr]
      simp [Except.map, Value.isIn_append]

theorem result_inList (items : List Value) :
    ((inList x (rowConst items) false).eval schema row).result =
      (x.eval schema row).result.map (·.isIn items) := by
  rw [eval, Traced.bind_eq, Traced.result_bind]
  cases (x.eval schema row).result <;> rfl

/-- Every list with an item can be written out as a disjunction. -/
theorem exists_disjoins (x : Expr) (hne : items ≠ []) : ∃ e, Disjoins x items e := by
  induction items with
  | nil => exact absurd rfl hne
  | cons v rest ih =>
    by_cases hrest : rest = []
    · subst hrest
      exact ⟨_, .equal v⟩
    · obtain ⟨e, he⟩ := ih hrest
      exact ⟨_, .or (.equal v) he⟩

inductive Negates : Expr → Expr → Prop where
  | isNull (e : Expr) : Negates (isNull e false) (isNull e true)
  | between (e low high : Expr) : Negates (between e low high false) (between e low high true)
  | inList (e list : Expr) : Negates (inList e list false) (inList e list true)
  | like (e : Expr) (pattern : String) (regex : Regex) :
      Negates (like e pattern regex false) (like e pattern regex true)

theorem eval_not (e : Expr) : (unary .not e).eval schema row =
    (e.eval schema row).bind fun v => .ofExcept v.negation := by
  rw [eval]
  rfl

theorem ofExcept_negation (h : v.Fits .boolean) :
    (Traced.ok v : Evaluation Value).bind (fun w => .ofExcept w.negation) = .ok v.not3 := by
  rw [Traced.ok_bind, Value.negation_of_fits h]
  rfl

/-- The negated form is NOT of the plain one, failures and calls included. The case split is on the
predicates that have a negated form. -/
theorem Negates.eval_eq {plain negated : Expr} (h : Negates plain negated) :
    negated.eval schema row = (unary .not plain).eval schema row := by
  rw [eval_not]
  cases h with
  | isNull e =>
    simp only [eval, Traced.bind_eq, Traced.bind_assoc]
    refine congrArg (e.eval schema row).bind ?_
    funext v
    cases v.isNull <;> rfl
  | between e low high =>
    simp only [eval, Traced.bind_eq, Traced.bind_assoc]
    refine congrArg (e.eval schema row).bind ?_
    funext v
    refine congrArg (low.eval schema row).bind ?_
    funext a
    refine congrArg (high.eval schema row).bind ?_
    funext b
    exact (ofExcept_negation (Value.fits_and3 _ _)).symm
  | inList e list =>
    cases list with
    | rowConst items =>
      simp only [eval, Traced.bind_eq, Traced.bind_assoc]
      refine congrArg (e.eval schema row).bind ?_
      funext v
      exact (ofExcept_negation (Value.fits_isIn v items)).symm
    | _ => simp only [eval]; rfl
  | like e pattern regex =>
    simp only [eval, Traced.bind_eq, Traced.bind_assoc]
    refine congrArg (e.eval schema row).bind ?_
    funext v
    cases v with
    | text s =>
      simp only [Traced.ok_bind]
      cases regex.isMatch s <;> rfl
    | _ => rfl

theorem binaryOf_of_comparable (op : BinaryOp) (hop : op.isComparison = true)
    (htypes : l.type.comparable r.type = true) (hl : l.isRowConst = false)
    (hr : r.isRowConst = false) : binaryOf op l r = .ok (binary op l r .boolean) := by
  have hkind : op.isLogical = false ∧ op.isArithmetic = false := by
    cases op <;> first | exact ⟨rfl, rfl⟩ | cases hop
  have hcheck (context : String) : checkComparable context l.type r.type = .ok () :=
    checkComparable_eq_ok.mpr htypes
  have hside {e : Expr} (he : e.isRowConst = false) (context : String) :
      asScalar context e = .ok e := asScalar_eq_ok.mpr ⟨he, rfl⟩
  simp [binaryOf, hkind.1, hkind.2, hcheck, hside hl, hside hr, bind, Except.bind, pure,
    Except.pure]

theorem comparable_of_between {s : Expr} (h : betweenOf x low high negated = .ok s) :
    x.type.comparable low.type = true ∧ x.type.comparable high.type = true := by
  obtain ⟨_, hlow, h⟩ := bind_eq_ok.mp h
  obtain ⟨_, hhigh, -⟩ := bind_eq_ok.mp h
  exact ⟨checkComparable_eq_ok.mp hlow, checkComparable_eq_ok.mp hhigh⟩

theorem comparable_of_inList {s : Expr} (h : inListOf x (rowConst items) negated = .ok s) :
    ∀ v ∈ items, x.type.comparable v.type = true := by
  obtain ⟨_, hitems, -⟩ := bind_eq_ok.mp h
  exact fun v hv => checkComparable_eq_ok.mp (forM_eq_ok.mp hitems v hv)

/-- What is accepted as `BETWEEN` is accepted written out. -/
theorem constructed_withinBounds {s : Expr} (hx : x.Constructed) (hlow : low.Constructed)
    (hhigh : high.Constructed) (h : betweenOf x low high negated = .ok s) :
    (withinBounds x low high).Constructed := by
  obtain ⟨hlowtype, hhightype⟩ := comparable_of_between h
  obtain ⟨-, hxscalar, hlowscalar, hhighscalar⟩ := betweenOf_eq_ok h
  have hlower := binaryOf_of_comparable .greaterEqual rfl hlowtype hxscalar hlowscalar
  have hupper := binaryOf_of_comparable .lessEqual rfl hhightype hxscalar hhighscalar
  exact .binary (.binary hx hlow hlower) (.binary hx hhigh hupper)
    (and_of_conjoinable ⟨rfl, rfl⟩ ⟨rfl, rfl⟩)

theorem Disjoins.conjoinable (h : Disjoins x items e) : e.Conjoinable := by
  cases h <;> exact ⟨rfl, rfl⟩

/-- What is accepted as `IN` is accepted written out. -/
theorem Disjoins.constructed {s : Expr} (hx : x.Constructed)
    (hlist : inListOf x (rowConst others) negated = .ok s) (hsub : ∀ v ∈ items, v ∈ others)
    (h : Disjoins x items e) : e.Constructed := by
  obtain ⟨-, -, -, hscalar⟩ := inListOf_eq_ok hlist
  induction h with
  | equal v =>
    have htypes := comparable_of_inList hlist v (hsub v (by simp))
    exact .binary hx (.const v) (binaryOf_of_comparable .equal rfl htypes hscalar rfl)
  | or hl hr ihl ihr =>
    have hleft := ihl fun v hv => hsub v (by simp [hv])
    have hright := ihr fun v hv => hsub v (by simp [hv])
    exact .binary hleft hright (binaryOf_of_conjoinable rfl hl.conjoinable hr.conjoinable)

/-- `BETWEEN` has the value of its two comparisons, and `IN` that of the equalities with the items
of its list, whatever the brackets are. Where the predicate can be constructed, so can what it is
written out to. The negated form of a predicate is evaluated as `NOT` of its plain form. -/
theorem predicates_written_out (schema : Schema) (row : RowView) :
    (∀ x low high b, (high.eval schema row).result = .ok b →
      ((between x low high false).eval schema row).result =
        ((withinBounds x low high).eval schema row).result) ∧
    (∀ x items e, Disjoins x items e →
      ((inList x (rowConst items) false).eval schema row).result =
        (e.eval schema row).result) ∧
    (∀ x items, items ≠ [] → ∃ e, Disjoins x items e) ∧
    (∀ x low high negated s, x.Constructed → low.Constructed → high.Constructed →
      betweenOf x low high negated = .ok s → (withinBounds x low high).Constructed) ∧
    (∀ x items negated s e, x.Constructed → inListOf x (rowConst items) negated = .ok s →
      Disjoins x items e → e.Constructed) ∧
    ∀ plain negated, Negates plain negated →
      negated.eval schema row = (unary .not plain).eval schema row := by
  refine ⟨fun x low high b hhigh => result_between x low hhigh, ?_,
    fun x items => exists_disjoins x, fun x low high negated s => constructed_withinBounds,
    ?_, fun plain negated h => h.eval_eq⟩
  · intro x items e h
    rw [result_inList, h.result]
  · intro x items negated s e hx hlist h
    exact h.constructed hx hlist fun _ hv => hv

/-- A float in a list of a null and of an integer that is rounded to it; the float between an
integer that is larger and null; and a pattern that is asked of a number. -/
theorem predicates_written_out_nulls :
    let schema : Schema := ⟨[]⟩
    let row := Row.view []
    let x := const (.float ⟨0x4340000000000000⟩)
    let low := const (.integer 9007199254740994)
    let anything : Regex := ⟨fun _ => true⟩
    let mismatch : EvalError := .invalidOperands "LIKE" .float .text
    (∃ e, Disjoins x [.null, .integer 9007199254740993] e ∧ e.Constructed ∧
      (e.eval schema row).result = .ok (.boolean true)) ∧
    (withinBounds x low (const .null)).Constructed ∧
    ((withinBounds x low (const .null)).eval schema row).result = .ok (.boolean false) ∧
    (unary .not (like x "%" anything false)).eval schema row = .error mismatch := by
  intro schema row x low anything mismatch
  obtain ⟨hbetween, hlist, hexists, hbounds, hdisjoins, hnot⟩ :=
    predicates_written_out schema row
  have hx : x.Constructed := .const _
  obtain ⟨e, he⟩ := hexists x [.null, .integer 9007199254740993] (by simp)
  have hin : (Value.float ⟨0x4340000000000000⟩).isIn [.null, .integer 9007199254740993] =
      .boolean true := by decide +kernel
  have hwithin : ((Value.float ⟨0x4340000000000000⟩).compare3 Ordering.isGE
      (.integer 9007199254740994)).and3 .null = .boolean false := by decide +kernel
  refine ⟨⟨e, he, hdisjoins x _ false _ e hx rfl he, ?_⟩, ?_, ?_, ?_⟩
  · rw [← hlist x _ e he, result_inList]
    exact congrArg Except.ok hin
  · exact hbounds x low (const .null) false _ hx (.const _) (.const _) rfl
  · rw [← hbetween x low (const .null) .null rfl]
    exact congrArg Except.ok hwithin
  · exact (hnot _ _ (.like x "%" anything)).symm

end Expr

end RowEngine
