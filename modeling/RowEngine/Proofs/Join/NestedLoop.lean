import RowEngine.Proofs.Expr.References
import RowEngine.Proofs.Join.Stream

/-!
# The join as a nested loop

A nested loop tries the whole condition on every pair of rows. The join looks up the right rows with
the key of the left row and tries the rest of the condition on them. Both find the same pairs,
unless the rest of the condition is true on some of the rows with the key and not on others.
-/

namespace RowEngine

open RowEngine.Expr

/-- The rows that a left row is joined with by trying the condition on every right row. -/
def nestedLoop (input : Schema) (condition : Expr) (projection : Projection) (rightWidth : Nat)
    (rights : List Row) (left : Row) : Except EvalError (List Row) := do
  let found ← rights.filterM fun right => (condition.holds input (Frame.mk left right).view).result
  if found.isEmpty then
    return [← (projection.apply (Frame.mk left (Row.nulls rightWidth)).view).result]
  else found.mapM fun right => (projection.apply (Frame.mk left right).view).result

namespace JoinPlan

variable {plan : JoinPlan} {left right : Schema} {condition : Expr}
  {targets : Option (List Target)} {pairs : List (Nat × Nat)} {f : Frame}

/-- The key columns of rows that conform to their schemas hold values of one type. -/
theorem Joins.keys_type_eq (h : plan.Joins left right condition targets pairs)
    (hleft : f.left.view.Conforms left) (hright : f.right.view.Conforms right) {pair : Nat × Nat}
    (hpair : pair ∈ pairs) (hl : (f.left.at pair.1).isNull = false)
    (hr : (f.right.at pair.2).isNull = false) :
    (f.left.at pair.1).type = (f.right.at pair.2).type := by
  obtain ⟨c, d, hc, hd, htype⟩ := h.columns hpair
  obtain ⟨v, hv, hfits⟩ := hleft.fits _ c hc
  obtain ⟨w, hw, hfits'⟩ := hright.fits _ d hd
  have hv : f.left.at pair.1 = v := by
    rw [Row.at, show f.left[pair.1]? = some v from hv]
    rfl
  have hw : f.right.at pair.2 = w := by
    rw [Row.at, show f.right[pair.2]? = some w from hw]
    rfl
  rw [hv] at hl ⊢
  rw [hw] at hr ⊢
  rw [hfits.type_eq hl, hfits'.type_eq hr, htype]

/-- On rows that conform to their schemas, the whole condition is true just if the rows are partners
and the filter is true on them. -/
theorem Joins.holds_condition (h : plan.Joins left right condition targets pairs)
    (hleft : f.left.view.Conforms left) (hright : f.right.view.Conforms right)
    (hconjuncts : ∀ c ∈ condition.conjuncts, ∃ v, (c.eval plan.input f.view).result = .ok v) :
    ∃ b, plan.admits f.left f.right = .ok b ∧
      (condition.holds plan.input f.view).result = .ok (plan.links f.left f.right && b) := by
  obtain ⟨p, b, hqual, hadmits, hcondition⟩ := h.holds_parts hconjuncts
  have hlinks := h.holds_quals plan.input hleft.width hright.width
    fun pair hpair => h.keys_type_eq hleft hright hpair
  obtain rfl : p = plan.links f.left f.right := Except.ok.inj (hqual.symm.trans hlinks)
  exact ⟨b, hadmits, hcondition⟩

/-- The filter is true on all partners of a left row or on none of them. -/
def Uniform (plan : JoinPlan) (rights : List Row) (row : Row) : Prop :=
  (∀ r ∈ plan.partners rights row, plan.admits row r = .ok true) ∨
    ∀ r ∈ plan.partners rights row, plan.admits row r = .ok false

/-- There is no filter, or it reads columns of the left input only. -/
def ReadsLeft (plan : JoinPlan) (leftWidth : Nat) : Prop :=
  ∀ filter ∈ plan.filter,
    filter.extensionFree = true ∧ ∀ ref ∈ filter.references, ref.id < leftWidth

/-- Where only the left row is read, the right row makes no difference. -/
theorem admits_congr {row r r' : Row} (h : plan.ReadsLeft row.length)
    (hlength : r.length = r'.length) : plan.admits row r = plan.admits row r' := by
  unfold admits
  cases hfilter : plan.filter with
  | none => rfl
  | some filter =>
    obtain ⟨hfree, hrefs⟩ := h filter hfilter
    have hwidth : (Frame.mk row r).view.width = (Frame.mk row r').view.width := by
      simp [Frame.view, hlength]
    have hagree : Agree (Frame.mk row r).view (Frame.mk row r').view filter.references := by
      intro ref href
      have hlt := hrefs ref href
      rw [(Frame.mk row r).value_left hlt, (Frame.mk row r').value_left hlt]
    have heval : filter.eval plan.input (Frame.mk row r).view =
        filter.eval plan.input (Frame.mk row r').view := eval_congr hwidth filter hfree hagree
    simp only [holds, heval]

/-- A filter that reads only the left row is true on all of its partners or on none. -/
theorem uniform_of_readsLeft {row : Row} {rights : List Row} {width : Nat}
    (h : plan.ReadsLeft row.length) (hrights : ∀ r ∈ rights, r.length = width)
    (hadmits : ∀ r ∈ rights, ∃ b, plan.admits row r = .ok b) : plan.Uniform rights row := by
  cases hpartners : plan.partners rights row with
  | nil =>
    left
    simp [hpartners]
  | cons first rest =>
    have hmem {r : Row} (hr : r ∈ plan.partners rights row) : r ∈ rights :=
      (List.mem_filter.mp hr).1
    have hfirst : first ∈ rights := hmem (by simp [hpartners])
    obtain ⟨b, hb⟩ := hadmits first hfirst
    have hsame : ∀ r ∈ plan.partners rights row, plan.admits row r = .ok b := by
      intro r hr
      rw [← hb, admits_congr h]
      rw [hrights r (hmem hr), hrights first hfirst]
    cases b with
    | true => exact .inl hsame
    | false => exact .inr hsame

/-- Where the filter is true on all partners of a left row or on none, trying the condition on every
right row finds all partners or nothing. -/
theorem Joins.found (h : plan.Joins left right condition targets pairs) {row : Row}
    {rights : List Row} (hrow : row.view.Conforms left)
    (hrights : ∀ r ∈ rights, r.view.Conforms right)
    (hconjuncts : ∀ r ∈ rights, ∀ c ∈ condition.conjuncts,
      ∃ v, (c.eval plan.input (Frame.mk row r).view).result = .ok v)
    {b : Bool} (hb : ∀ r ∈ plan.partners rights row, plan.admits row r = .ok b) :
    rights.filterM (fun r => (condition.holds plan.input (Frame.mk row r).view).result) =
      .ok (if b then plan.partners rights row else []) := by
  have hholds : ∀ r ∈ rights, (condition.holds plan.input (Frame.mk row r).view).result =
      .ok (plan.links row r && b) := by
    intro r hr
    obtain ⟨b', hadmits, hholds⟩ := h.holds_condition (f := ⟨row, r⟩) hrow (hrights r hr)
      (hconjuncts r hr)
    cases hlinks : plan.links row r with
    | false => simpa [hlinks] using hholds
    | true =>
      have hpartner : r ∈ plan.partners rights row := List.mem_filter.mpr ⟨hr, hlinks⟩
      obtain rfl : b = b' := by simpa [hb r hpartner] using hadmits
      simpa [hlinks] using hholds
  rw [filterM_eq_filter hholds]
  cases b <;> simp [partners]

/-- A left row is padded just where no right row satisfies the condition. -/
theorem nestedLoop_of_found {row : Row} {rights found : List Row}
    (h : rights.filterM (fun r => (condition.holds plan.input (Frame.mk row r).view).result) =
      .ok found) :
    nestedLoop plan.input condition plan.projection plan.rightWidth rights row =
      if found = [] then (plan.padding row).map fun out => [out]
      else found.mapM (plan.output row) := by
  rw [nestedLoop, h]
  cases found with
  | nil =>
    change (plan.padding row >>= fun out => .ok [out]) = _
    cases plan.padding row <;> rfl
  | cons r rest => rfl

/-- The hash join and the nested loop give the same rows for a left row on which the filter is
uniform. -/
theorem Joins.answer_eq_nestedLoop (h : plan.Joins left right condition targets pairs)
    {row : Row} {rights : List Row} (hrow : row.view.Conforms left)
    (hrights : ∀ r ∈ rights, r.view.Conforms right)
    (hconjuncts : ∀ r ∈ rights, ∀ c ∈ condition.conjuncts,
      ∃ v, (c.eval plan.input (Frame.mk row r).view).result = .ok v)
    (hfilter : plan.Uniform rights row) :
    plan.answer rights row =
      nestedLoop plan.input condition plan.projection plan.rightWidth rights row := by
  by_cases hnone : plan.partners rights row = []
  · have hall : ∀ r ∈ plan.partners rights row, plan.admits row r = .ok true := by simp [hnone]
    rw [nestedLoop_of_found (h.found hrow hrights hconjuncts hall), answer_of_no_partner hnone]
    simp [hnone]
  rw [answer_of_partners hnone]
  rcases hfilter with hall | hrefused
  · rw [nestedLoop_of_found (h.found hrow hrights hconjuncts hall), streak_of_admitted hall]
    simp [hnone]
  · rw [nestedLoop_of_found (h.found hrow hrights hconjuncts hrefused)]
    obtain ⟨r, rest, hcons⟩ := List.exists_cons_of_ne_nil hnone
    rw [hcons, streak_of_refused (hrefused r (by simp [hcons]))]
    simp

end JoinPlan

namespace Operator

open JoinPlan

variable {left right : Operator} {plan : JoinPlan} {condition : Expr}
  {targets : Option (List Target)} {lefts rights : List Row}

/-- On rows that conform to their schemas a left outer join gives the rows of the nested loop, if no
conjunct and no target fails and the filter reads the left row only or is uniform on each left row.
-/
theorem collect_leftJoin_eq_nestedLoop
    (hplan : JoinPlan.make left.schema right.schema condition targets = .ok plan)
    (hleft : (left.collect false left.start).outcome = .ok lefts)
    (hright : (right.collect false right.start).outcome = .ok rights)
    (hlefts : ∀ l ∈ lefts, l.view.Conforms left.schema)
    (hrights : ∀ r ∈ rights, r.view.Conforms right.schema)
    (hconjuncts : ∀ l ∈ lefts, ∀ r ∈ rights, ∀ c ∈ condition.conjuncts,
      ∃ v, (c.eval (left.schema ++ right.schema) (Frame.mk l r).view).result = .ok v)
    (htargets : ∀ l ∈ lefts, ∀ r ∈ Row.nulls right.schema.size :: rights, ∀ t ∈ targets.getD [],
      ∃ v, (t.expr.eval (left.schema ++ right.schema) (Frame.mk l r).view).result = .ok v)
    (hfilter : plan.ReadsLeft left.schema.size ∨ ∀ l ∈ lefts, plan.Uniform rights l) :
    ∃ projection answers, Projection.make (left.schema ++ right.schema) targets = .ok projection ∧
      lefts.mapM (nestedLoop (left.schema ++ right.schema) condition projection right.schema.size
        rights) = .ok answers ∧
      ((left.leftJoin right plan).collect false (left.leftJoin right plan).start).outcome =
        .ok answers.flatten := by
  obtain ⟨pairs, hjoins⟩ := JoinPlan.joins_of_make hplan
  have hwritten : ∀ l ∈ lefts, ∀ r ∈ Row.nulls right.schema.size :: rights,
      ∃ out, plan.output l r = .ok out :=
    fun l hl r hr => hjoins.exists_output (htargets l hl r hr)
  rw [← hjoins.input] at hconjuncts
  have hadmits : ∀ l ∈ lefts, ∀ r ∈ rights, ∃ b, plan.admits l r = .ok b := by
    intro l hl r hr
    obtain ⟨b, hb, -⟩ := hjoins.holds_condition (f := ⟨l, r⟩) (hlefts l hl) (hrights r hr)
      (hconjuncts l hl r hr)
    exact ⟨b, hb⟩
  have huniform : ∀ l ∈ lefts, plan.Uniform rights l := by
    rcases hfilter with hreads | huniform
    · intro l hl
      rw [← (hlefts l hl).width] at hreads
      exact uniform_of_readsLeft hreads (fun r hr => (hrights r hr).width) (hadmits l hl)
    · exact huniform
  have hanswer : ∀ l ∈ lefts, ∃ out, plan.answer rights l = .ok out := by
    intro l hl
    apply exists_answer
    · exact hadmits l hl
    · intro r hr
      exact hwritten l hl r (by simp [hr])
    · rw [padding, hjoins.rightWidth]
      exact hwritten l hl _ (by simp)
  have hsame : lefts.mapM (plan.answer rights) =
      lefts.mapM (nestedLoop plan.input condition plan.projection plan.rightWidth rights) := by
    apply mapM_congr
    intro l hl
    exact hjoins.answer_eq_nestedLoop (hlefts l hl) hrights (hconjuncts l hl) (huniform l hl)
  obtain ⟨answers, hanswers⟩ := exists_mapM hanswer
  have hrows : plan.rows rights lefts = .ok answers.flatten :=
    map_eq_ok.mpr ⟨answers, hanswers, rfl⟩
  have hcollect := collect_leftJoin_rows hplan hleft hright (fun l hl => (hlefts l hl).width)
    (fun r hr => (hrights r hr).width) hrows
  rw [hsame, hjoins.input, hjoins.rightWidth] at hanswers
  exact ⟨plan.projection, answers, hjoins.projection, hanswers, hcollect⟩

/-- Equal numbers meet in the hash join and in the nested loop. -/
theorem collect_leftJoin_eq_nestedLoop_integers :
    let left := Operator.scan (.ofIntegers "a" [1, 2])
    let right := Operator.scan (.ofIntegers "b" [2, 2])
    let condition := Expr.binary .equal (.column 0 .integer "a") (.column 1 .integer "b") .boolean
    ∃ plan projection answers,
      JoinPlan.make left.schema right.schema condition none = .ok plan ∧
      [[.integer 1], [.integer 2]].mapM (nestedLoop (left.schema ++ right.schema) condition
        projection 1 [[.integer 2], [.integer 2]]) = .ok answers ∧
      ((left.leftJoin right plan).collect false (left.leftJoin right plan).start).outcome =
        .ok answers.flatten := by
  intro left right condition
  have hplan : JoinPlan.make left.schema right.schema condition none = .ok _ := rfl
  obtain ⟨projection, answers, -, hanswers, hcollect⟩ := collect_leftJoin_eq_nestedLoop hplan
    (collect_scan _) (collect_scan _) (Relation.conforms_ofIntegers "a" [1, 2])
    (Relation.conforms_ofIntegers "b" [2, 2]) (by
      intro l hl r hr c hc
      obtain rfl := List.mem_singleton.mp hc
      rcases List.mem_map.mp hl with ⟨m, -, rfl⟩
      rcases List.mem_map.mp hr with ⟨n, -, rfl⟩
      exact ⟨_, rfl⟩) (by simp) (.inl (by simp [ReadsLeft]))
  exact ⟨_, projection, answers, hplan, hanswers, hcollect⟩

end Operator

end RowEngine
