import Mathlib.Data.List.Basic
import RowEngine.Proofs.Expr.Refolding

/-!
# Conjuncts and the conditions put together of them

The conjuncts of a condition are what hangs off the tree of `AND`s at its root, from left to right.
Conditions that are no `AND`s can be put together and taken apart again. Of two or more, the first
that is a row constant or has no truth value is refused, and nothing else is.
-/

namespace RowEngine.Expr

variable {e c l r : Expr} {es : List Expr} {type : DataType} {path : List Nat} {f : Failure}

/-- The root of an expression is an `AND`. -/
def isAnd : Expr → Bool
  | binary .and _ _ _ => true
  | _ => false

theorem isAnd_eq_false_iff : e.isAnd = false ↔ ∀ l r type, e = binary .and l r type → False := by
  constructor
  · rintro h l r type rfl
    cases h
  · intro h
    unfold isAnd
    split
    · exact (h _ _ _ rfl).elim
    · rfl

theorem conjuncts_of_not_isAnd (h : e.isAnd = false) : e.conjuncts = [e] :=
  conjuncts.eq_2 e (isAnd_eq_false_iff.mp h)

theorem isAnd_of_mem_conjuncts (hc : c ∈ e.conjuncts) : c.isAnd = false := by
  fun_induction conjuncts e with
  | case1 left right type ihl ihr => exact (List.mem_append.mp hc).elim ihl ihr
  | case2 e hand =>
    obtain rfl := List.mem_singleton.mp hc
    exact isAnd_eq_false_iff.mpr hand

/-- An expression other than an `AND` is reached from the root by going from child to child through
nothing but `AND`s. The path gives the places of these children. -/
inductive Hangs (c : Expr) : List Nat → Expr → Prop where
  | root (hc : c.isAnd = false) : Hangs c [] c
  | child {i : Nat} {path : List Nat} {d e : Expr} (he : e.isAnd = true)
      (hd : e.children[i]? = some d) (h : Hangs c path d) : Hangs c (i :: path) e

/-- Where the root is no `AND`, nothing hangs in an expression but the expression itself. -/
theorem hangs_of_not_isAnd (he : e.isAnd = false) : Hangs c path e ↔ path = [] ∧ c = e := by
  constructor
  · intro h
    cases h with
    | root => exact ⟨rfl, rfl⟩
    | child hand =>
      rw [he] at hand
      cases hand
  · rintro ⟨rfl, rfl⟩
    exact .root he

/-- Below an `AND`, a conjunct hangs on one of the sides, and the first step of its path tells
which. -/
theorem hangs_and : Hangs c path (binary .and l r type) ↔
    ∃ rest, (path = 0 :: rest ∧ Hangs c rest l) ∨ (path = 1 :: rest ∧ Hangs c rest r) := by
  constructor
  · intro h
    cases h with
    | root hc => cases hc
    | @child i rest _ _ _ hd h =>
      match i, hd with
      | 0, rfl => exact ⟨rest, .inl ⟨rfl, h⟩⟩
      | 1, rfl => exact ⟨rest, .inr ⟨rfl, h⟩⟩
      | _ + 2, hd => cases hd
  · rintro ⟨rest, ⟨rfl, h⟩ | ⟨rfl, h⟩⟩
    · exact .child rfl rfl h
    · exact .child rfl rfl h

def hanging : Expr → List (List Nat × Expr)
  | binary .and left right _ =>
    left.hanging.map (fun (path, c) => (0 :: path, c)) ++
      right.hanging.map (fun (path, c) => (1 :: path, c))
  | e => [([], e)]

theorem snd_hanging (e : Expr) : e.hanging.map (·.2) = e.conjuncts := by
  fun_induction conjuncts e with
  | case1 left right type ihl ihr => simp [hanging, ← ihl, ← ihr, Function.comp_def]
  | case2 e hand =>
    rw [hanging.eq_2 e hand]
    rfl

/-- The conjuncts listed with their paths are all that hang in the expression. -/
theorem mem_hanging : (path, c) ∈ e.hanging ↔ Hangs c path e := by
  induction e using hanging.induct generalizing path c with
  | case1 left right type ihl ihr =>
    simp only [hanging, List.mem_append, List.mem_map, Prod.exists, Prod.mk.injEq, hangs_and, ihl,
      ihr]
    constructor
    · rintro (⟨rest, _, h, rfl, rfl⟩ | ⟨rest, _, h, rfl, rfl⟩)
      · exact ⟨rest, .inl ⟨rfl, h⟩⟩
      · exact ⟨rest, .inr ⟨rfl, h⟩⟩
    · rintro ⟨rest, ⟨rfl, h⟩ | ⟨rfl, h⟩⟩
      · exact .inl ⟨rest, c, h, rfl, rfl⟩
      · exact .inr ⟨rest, c, h, rfl, rfl⟩
  | case2 e hand =>
    rw [hanging.eq_2 e hand, hangs_of_not_isAnd (isAnd_eq_false_iff.mpr hand), List.mem_singleton,
      Prod.mk.injEq]

/-- Paths come in the order of their first difference. -/
theorem pairwise_hanging (e : Expr) : e.hanging.Pairwise fun a b => a.1 < b.1 := by
  induction e using hanging.induct with
  | case1 left right type ihl ihr =>
    simp only [hanging, List.pairwise_append, List.pairwise_map]
    refine ⟨ihl.imp List.cons_lt_cons_self.mpr, ihr.imp List.cons_lt_cons_self.mpr, ?_⟩
    intro a ha b hb
    obtain ⟨⟨path, c⟩, -, rfl⟩ := List.mem_map.mp ha
    obtain ⟨⟨path', c'⟩, -, rfl⟩ := List.mem_map.mp hb
    exact List.cons_lt_cons_iff.mpr (.inl Nat.zero_lt_one)
  | case2 e hand =>
    rw [hanging.eq_2 e hand]
    exact List.pairwise_singleton _ _

/-- Why an expression may not stand on a side of an `AND`, and what is said of it. -/
inductive Barred (c : Expr) : Failure → Prop where
  | mistyped (hboolean : c.type ≠ .boolean) (hnull : c.type ≠ .null) :
      Barred c (mismatch DataType.boolean.name c.type "operator AND")
  | rowConst (htype : c.type = .boolean ∨ c.type = .null) (h : c.isRowConst = true) :
      Barred c (.invalidExpression (.rowConstant "operator AND"))

theorem isCondition_iff {t : DataType} : t.isCondition = true ↔ t = .boolean ∨ t = .null := by
  simp [DataType.isCondition]

/-- A part is refused as a condition just if it is barred, and for the reason that bars it. -/
theorem asCondition_eq_error : asCondition "operator AND" c = .error f ↔ c.Barred f := by
  constructor
  · intro h
    unfold asCondition asScalar at h
    split at h
    · rename_i htype
      split at h
      · obtain rfl := Except.error.inj h
        exact .rowConst (isCondition_iff.mp htype) ‹_›
      · cases h
    · rename_i htype
      rw [isCondition_iff, not_or] at htype
      obtain rfl := Except.error.inj h
      exact .mistyped htype.1 htype.2
  · intro h
    cases h with
    | mistyped hboolean hnull =>
      have htype : ¬ c.type.isCondition = true := by simp [isCondition_iff, hboolean, hnull]
      rw [asCondition, if_neg htype]
    | rowConst htype h => rw [asCondition, if_pos (isCondition_iff.mpr htype), asScalar, if_pos h]

/-- An expression may stand on a side of an `AND`, or there is a reason why not. -/
theorem conjoinable_or_barred (c : Expr) : c.Conjoinable ∨ ∃ f, c.Barred f := by
  by_cases htype : c.type.isCondition = true
  · cases hscalar : c.isRowConst with
    | false => exact .inl ⟨htype, hscalar⟩
    | true => exact .inr ⟨_, .rowConst (isCondition_iff.mp htype) hscalar⟩
  · rw [isCondition_iff, not_or] at htype
    exact .inr ⟨_, .mistyped htype.1 htype.2⟩

theorem Barred.not_conjoinable (h : c.Barred f) : ¬ c.Conjoinable := by
  rintro ⟨htype, hscalar⟩
  cases h with
  | mistyped hboolean hnull => exact (isCondition_iff.mp htype).elim hboolean hnull
  | rowConst _ h => simp [h] at hscalar

theorem Barred.and_right (hl : l.Conjoinable) (h : c.Barred f) : and l c = .error f := by
  have hleft : asCondition "operator AND" l = .ok l := asCondition_eq_ok.mpr ⟨hl.1, hl.2, rfl⟩
  have hright := asCondition_eq_error.mpr h
  change (asCondition "operator AND" l >>= fun left => asCondition "operator AND" c >>= fun right =>
    pure (binary .and left right .boolean)) = _
  rw [hleft, hright]
  rfl

theorem Barred.and_left (h : c.Barred f) : and c r = .error f := by
  change (asCondition "operator AND" c >>= fun left => asCondition "operator AND" r >>= fun right =>
    pure (binary .and left right .boolean)) = _
  rw [asCondition_eq_error.mpr h]
  rfl

/-- The first condition in a list that may not be joined, and what is said of it. -/
def FirstBarred (es : List Expr) (f : Failure) : Prop :=
  ∃ before c after, es = before ++ c :: after ∧ (∀ b ∈ before, b.Conjoinable) ∧ c.Barred f

theorem firstBarred_cons (hc : c.Conjoinable) : FirstBarred (c :: es) f ↔ FirstBarred es f := by
  constructor
  · rintro ⟨before, d, after, heq, hbefore, hd⟩
    rcases List.cons_eq_append_iff.mp heq with ⟨rfl, hcons⟩ | ⟨others, rfl, hes⟩
    · obtain ⟨rfl, -⟩ := List.cons.inj hcons
      exact absurd hc hd.not_conjoinable
    · exact ⟨others, d, after, hes, fun b hb => hbefore b (by simp [hb]), hd⟩
  · rintro ⟨before, d, after, rfl, hbefore, hd⟩
    exact ⟨c :: before, d, after, rfl, List.forall_mem_cons.mpr ⟨hc, hbefore⟩, hd⟩

theorem firstBarred_of_barred {g : Failure} (hc : c.Barred g) :
    FirstBarred (c :: es) f ↔ c.Barred f := by
  constructor
  · rintro ⟨before, d, after, heq, hbefore, hd⟩
    rcases List.cons_eq_append_iff.mp heq with ⟨rfl, hcons⟩ | ⟨others, rfl, -⟩
    · obtain ⟨rfl, -⟩ := List.cons.inj hcons
      exact hd
    · exact absurd (hbefore c (by simp)) hc.not_conjoinable
  · exact fun h => ⟨[], c, es, rfl, by simp, h⟩

/-- Folding up conditions fails just if one of them is barred, for the reason of the first such. -/
theorem foldlM_and_eq_error (hl : l.Conjoinable) :
    es.foldlM and l = .error f ↔ FirstBarred es f := by
  induction es generalizing l with
  | nil => simp [FirstBarred, pure, Except.pure]
  | cons c rest ih =>
    rw [List.foldlM_cons]
    rcases conjoinable_or_barred c with hc | ⟨g, hc⟩
    · rw [and_of_conjoinable hl hc, firstBarred_cons hc]
      exact ih ⟨rfl, rfl⟩
    · rw [hc.and_right hl, firstBarred_of_barred hc, ← asCondition_eq_error,
        asCondition_eq_error.mpr hc]
      rfl

/-- Putting conditions together fails just for the first of two or more that may not be joined. -/
theorem conjoin_eq_error : conjoin es = .error f ↔ 2 ≤ es.length ∧ FirstBarred es f := by
  match es with
  | [] => simp [conjoin]
  | [e] => simp [conjoin, bind, Except.bind, pure, Except.pure]
  | first :: second :: rest =>
    have hlength : 2 ≤ (first :: second :: rest).length := by simp
    have hfold : conjoin (first :: second :: rest) = .error f ↔
        (second :: rest).foldlM and first = .error f := by
      cases h : (second :: rest).foldlM and first <;>
        simp [conjoin, h, bind, Except.bind, pure, Except.pure]
    rw [hfold, and_iff_right hlength]
    rcases conjoinable_or_barred first with hfirst | ⟨g, hfirst⟩
    · rw [firstBarred_cons hfirst, foldlM_and_eq_error hfirst]
    · rw [List.foldlM_cons, hfirst.and_left, firstBarred_of_barred hfirst, ← asCondition_eq_error,
        asCondition_eq_error.mpr hfirst]
      rfl

/-- Taking a condition apart gives what hangs off its `AND`s, from left to right, and no `AND`.
Putting such conditions together and taking the result apart gives them back, unless there are two
or more of which one is no condition, and then the first of these is refused. -/
theorem conjuncts_inverse_conjoin (e : Expr) (es : List Expr) :
    e.conjuncts ≠ [] ∧ (∀ c ∈ e.conjuncts, c.isAnd = false) ∧
    (∃ hung : List (List Nat × Expr), hung.map (·.2) = e.conjuncts ∧
      (hung.Pairwise fun a b => a.1 < b.1) ∧ ∀ path c, (path, c) ∈ hung ↔ Hangs c path e) ∧
    (es ≠ [] → (∀ c ∈ es, c.isAnd = false) →
      conjoin es ≠ .ok none ∧ ∀ r, conjoin es = .ok (some r) → r.conjuncts = es) ∧
    ∀ f, conjoin es = .error f ↔ 2 ≤ es.length ∧ FirstBarred es f := by
  refine ⟨conjuncts_ne_nil e, fun c hc => isAnd_of_mem_conjuncts hc, ?_, ?_, fun f =>
    conjoin_eq_error⟩
  · exact ⟨e.hanging, snd_hanging e, pairwise_hanging e, fun path c => mem_hanging⟩
  · intro hne hes
    refine ⟨mt conjoin_eq_none.mp hne, fun r hr => ?_⟩
    exact conjuncts_conjoin hr fun c hc => conjuncts_of_not_isAnd (hes c hc)

/-- In `a AND (NOT (a AND b) AND b)` the `AND` below the `NOT` is left as it is, and so it is in a
list of the same conditions in another order. -/
theorem conjuncts_inverse_conjoin_brackets :
    let a := Expr.column 0 .boolean "a"
    let b := Expr.column 1 .boolean "b"
    let inner := Expr.unary .not (.binary .and a b .boolean)
    let e := Expr.binary .and a (.binary .and inner b .boolean) .boolean
    let es := [inner, b, a]
    es ≠ [] ∧ (∀ c ∈ es, c.isAnd = false) ∧
      (∃ hung : List (List Nat × Expr), hung.map (·.2) = e.conjuncts ∧ ([1, 0], inner) ∈ hung) ∧
      ∃ r, conjoin es = .ok (some r) ∧ r.conjuncts = es := by
  intro a b inner e es
  have hne : es ≠ [] := by simp [es]
  have hes : ∀ c ∈ es, c.isAnd = false := by simp [es, inner, a, b, isAnd]
  obtain ⟨-, -, ⟨hung, hconjuncts, -, hhung⟩, hback, -⟩ := conjuncts_inverse_conjoin e es
  have hinner : Hangs inner [1, 0] e := .child rfl rfl (.child rfl rfl (.root rfl))
  have hr : conjoin es = .ok (some _) := rfl
  exact ⟨hne, hes, ⟨hung, hconjuncts, (hhung _ _).mpr hinner⟩, _, hr, (hback hne hes).2 _ hr⟩

end RowEngine.Expr
