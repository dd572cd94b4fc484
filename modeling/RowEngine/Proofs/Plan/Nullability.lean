import RowEngine.Proofs.Plan.Conforming

/-!
# Nulls where none are declared

A projection declares that every column it writes may hold nulls. A join without targets passes on
what its inputs declare instead, although it pads left rows with nulls on the right. So the columns
that such a join takes from its right input are those, and the only ones, in which a plan may hold
nulls that are not declared.
-/

namespace RowEngine

/-- A row holds null in a column only if the column may hold nulls. -/
def Row.Truthful (schema : Schema) (i : Nat) (row : Row) : Prop :=
  ∀ c, schema.columns[i]? = some c → row[i]? = some .null → c.nullable = true

/-- All rows of a table are truthful in all columns. -/
def Relation.Truthful (relation : Relation) : Prop :=
  ∀ row ∈ relation.rows, ∀ i, row.Truthful relation.schema i

/-- Anything may be written in the columns of a projection with targets. -/
theorem Projection.truthful_of_targets {p : Projection} {input : Schema} {targets : List Target}
    (h : make input (some targets) = .ok p) (i : Nat) (row : Row) : row.Truthful p.output i := by
  obtain rfl := make_some_eq_ok h
  intro c hc _
  rw [List.getElem?_map, Option.map_eq_some_iff] at hc
  obtain ⟨t, -, rfl⟩ := hc
  rfl

namespace Plan

/-- The columns that a join without targets takes from its right input, here or further down. -/
def pads : Plan → Nat → Bool
  | scan _, _ | scripted _, _ | project _ _, _ => false
  | filter input _, i | limit input _, i | sort input _, i => input.pads i
  | join left _ plan, i =>
    plan.projection.targets.isNone && (decide (left.schema.size ≤ i) || left.pads i)

/-- Whatever has been asked of a plan, the rows it hands out are truthful in a column. -/
def Truthful (p : Plan) (i : Nat) : Prop :=
  ∀ requests row, (p.operator.next false
    ((Operator.Session.start p.operator).run requests).state).outcome = .ok (some row) →
      row.Truthful p.schema i

/-- A whole row that is truthful in all columns but the padded ones. -/
structure Sincere (p : Plan) (row : Row) : Prop where
  full : row.length = p.schema.size
  truthful : ∀ i, p.pads i = false → row.Truthful p.schema i

variable {p left right : Plan} {plan : JoinPlan}

theorem schema_join (h : plan.projection = .identity (left.schema ++ right.schema)) :
    (left.join right plan).schema = left.schema ++ right.schema := by
  show plan.projection.output = _
  rw [h]
  rfl

/-- What a join writes for a left row: with targets it may write anything, and without them it
copies the left row. -/
theorem sincere_output {condition : Expr} {targets : Option (List Target)}
    {pairs : List (Nat × Nat)}
    (hplan : plan.Joins left.schema right.schema condition targets pairs) {l r out : Row}
    (hl : left.Sincere l) (hr : r.length = right.schema.size) (hout : plan.output l r = .ok out) :
    (left.join right plan).Sincere out := by
  have hwidth : (Frame.mk l r).view.width = (left.schema ++ right.schema).size := by
    rw [Schema.size_append, ← hl.full, ← hr]
    rfl
  refine ⟨Projection.length_apply hplan.projection hwidth hout, ?_⟩
  intro i hpads
  cases targets with
  | some targets => exact Projection.truthful_of_targets hplan.projection i out
  | none =>
    have hidentity := hplan.projection_eq
    simp only [pads, hidentity, Projection.identity, Option.isNone_none, Bool.true_and,
      Bool.or_eq_false_iff, decide_eq_false_iff_not, Nat.not_le] at hpads
    obtain ⟨hi, hpads⟩ := hpads
    rw [JoinPlan.output, hidentity] at hout
    intro c hc hnull
    rw [schema_join hidentity, Schema.columns_append, List.getElem?_append_left hi] at hc
    rw [Projection.getElem?_of_pair hout (by rwa [hl.full])] at hnull
    exact hl.truthful i hpads c hc hnull

/-- The induction is on the tree. Only a join without targets adds to the padded columns. -/
theorem Built.emits_sincere (h : p.Built) (hleaves : ∀ relation ∈ p.relations, relation.Truthful) :
    ∃ Inv, p.operator.Emits p.Sincere Inv := by
  induction h with
  | scan relation =>
    refine ⟨_, .scan ?_⟩
    intro row hrow
    exact ⟨relation.full row hrow, fun i _ => hleaves relation (by simp [relations]) row hrow i⟩
  | filter _ hp ih =>
    obtain rfl := filterBy_eq_ok hp
    obtain ⟨Inv, hinput⟩ := ih hleaves
    exact ⟨Inv, (hinput.filter _).mono fun _ h => ⟨h.full, h.truthful⟩⟩
  | project _ hp ih =>
    obtain ⟨projection, hmake, rfl⟩ := projectTo_eq_ok hp
    obtain ⟨Inv, hinput⟩ := ih hleaves
    refine ⟨Inv, hinput.project ?_⟩
    intro row out hrow hout
    exact ⟨Projection.length_apply hmake hrow.full hout,
      fun i _ => Projection.truthful_of_targets hmake i out⟩
  | limit _ count ih =>
    obtain ⟨Inv, hinput⟩ := ih hleaves
    exact ⟨_, (hinput.limit count).mono fun _ h => ⟨h.full, h.truthful⟩⟩
  | sort _ hp ih =>
    obtain ⟨keys, rfl⟩ := sortBy_eq_ok hp
    obtain ⟨Inv, hinput⟩ := ih hleaves
    exact ⟨_, (hinput.sort keys).mono fun _ h => ⟨h.full, h.truthful⟩⟩
  | @join left right _ _ _ _ _ _ hp ihleft ihright =>
    obtain ⟨plan, hplan, rfl⟩ := joinOn_eq_ok hp
    obtain ⟨pairs, hjoins⟩ := JoinPlan.joins_of_make hplan
    obtain ⟨InvLeft, hleft⟩ := ihleft fun relation hmem =>
      hleaves relation (by simp [relations, hmem])
    obtain ⟨InvRight, hright⟩ := ihright fun relation hmem =>
      hleaves relation (by simp [relations, hmem])
    refine ⟨_, hleft.leftJoin hright ?_ ?_⟩
    · intro l r out hl hr hout
      exact sincere_output hjoins hl hr.full hout
    · intro l out hl hout
      exact sincere_output hjoins hl (by simp [Row.nulls, hjoins.rightWidth]) hout

theorem Built.truthful (h : p.Built) (hleaves : ∀ relation ∈ p.relations, relation.Truthful)
    {i : Nat} (hi : p.pads i = false) : p.Truthful i := by
  obtain ⟨Inv, hemits⟩ := h.emits_sincere hleaves
  intro requests row hrow
  exact (hemits.next_run requests hrow).truthful i hi

/-- A row without partners is answered with itself and with nulls on the right. -/
theorem getElem?_of_padding {left right : Schema} {condition : Expr} {pairs : List (Nat × Nat)}
    (hplan : plan.Joins left right condition none pairs) (row : Row)
    (hrow : row.length = left.size) :
    ∃ out, plan.padding row = .ok out ∧ ∀ j < right.size, out[left.size + j]? = some .null := by
  let frame : Frame := ⟨row, Row.nulls plan.rightWidth⟩
  obtain ⟨out, hout⟩ : ∃ out, plan.padding row = .ok out :=
    Projection.exists_apply hplan.projection (fun i hi => frame.exists_value hi) (by simp)
  refine ⟨out, hout, ?_⟩
  intro j hj
  have hnulls : j < frame.right.length := by simpa [frame, Row.nulls, hplan.rightWidth] using hj
  rw [JoinPlan.padding, JoinPlan.output, hplan.projection_eq] at hout
  have hwidth : left.size + j < frame.view.width := by
    rw [← hrow]
    exact Nat.add_lt_add_left hnulls _
  obtain ⟨v, hv, hread⟩ := Projection.getElem?_of_identity hout hwidth
  rw [← hrow, frame.value_right hnulls] at hread
  rw [hv, ← hread, Row.at]
  cases h : frame.right[j]? with
  | none => rfl
  | some w => exact congrArg some (List.eq_of_mem_replicate (List.mem_of_getElem? h))

/-- A join without targets of tables is truthful in the columns of the right one just if all of them
may hold nulls: else one left row that meets an empty table is enough. -/
theorem truthful_join_iff {left right : Schema} {condition : Expr}
    (hplan : JoinPlan.make left right condition none = .ok plan) :
    (∀ a b : Relation, a.schema = left → b.schema = right → a.Truthful → b.Truthful →
        ∀ i, ((scan a).join (scan b) plan).Truthful i) ↔
      ∀ c ∈ right.columns, c.nullable = true := by
  obtain ⟨pairs, hjoins⟩ := JoinPlan.joins_of_make hplan
  have hidentity := hjoins.projection_eq
  constructor
  · intro htruthful c hc
    obtain ⟨j, hj⟩ := List.mem_iff_getElem?.mp hc
    have hlt : j < right.size := (List.getElem?_eq_some_iff.mp hj).1
    let row : Row := List.replicate left.size (.boolean true)
    let a : Relation := ⟨left, [row], by simp [row]⟩
    let b : Relation := ⟨right, [], by simp⟩
    obtain ⟨out, hpadding, hnulls⟩ := getElem?_of_padding hjoins row (by simp [row])
    have hout : plan.rows b.rows a.rows = .ok [out] :=
      JoinPlan.rows_cons_eq_ok.mpr ⟨[out], [], by
        rw [JoinPlan.answer_of_no_partner rfl, hpadding]
        rfl, JoinPlan.rows_nil_eq_ok.mpr rfl, rfl⟩
    have hreplays := (Operator.Replays.scan a).leftJoin hjoins (Operator.Replays.scan b) a.full
      b.full hout
    have hnext := (hreplays.consumer []).2.1
    refine htruthful a b rfl rfl ?_ (by simp [b, Relation.Truthful]) (left.size + j) [] out hnext c
      ?_ (hnulls j hlt)
    · intro r hr i c hc hnull
      obtain rfl := List.mem_singleton.mp hr
      have hmem := List.mem_of_getElem? hnull
      simp [row] at hmem
    · have hcolumn : (left.columns ++ right.columns)[left.columns.length + j]? = some c := by
        rw [List.getElem?_append_right (Nat.le_add_right _ _), Nat.add_sub_cancel_left]
        exact hj
      rw [schema_join hidentity]
      exact hcolumn
  · rintro hright a b rfl rfl ha hb i
    have hjoin : (scan a).joinOn (scan b) condition none =
        .ok ((scan a).join (scan b) plan, plan.logEntry) := by
      rw [joinOn, show JoinPlan.make (scan a).schema (scan b).schema condition none = .ok plan from
        hplan]
      rfl
    have hbuilt := (Built.scan a).join (.scan b) hjoin
    by_cases hi : a.schema.size ≤ i
    · intro requests row _ c hc _
      rw [schema_join hidentity] at hc
      have hcolumn : (a.schema.columns ++ b.schema.columns)[i]? = some c := hc
      rw [List.getElem?_append_right hi] at hcolumn
      exact hright c (List.mem_of_getElem? hcolumn)
    · refine hbuilt.truthful ?_ ?_
      · simpa [relations] using ⟨ha, hb⟩
      · simp only [pads, hidentity, Projection.identity, Option.isNone_none, Bool.true_and,
          Bool.or_false, decide_eq_false_iff_not]
        exact hi

/-- A plan is truthful in every column that is not padded, and the padded columns of a join are not
safe: over some tables without undeclared nulls it hands out such a null, unless all columns of its
right input may hold nulls. -/
theorem truthful_of_not_padded (hbuilt : p.Built)
    (hleaves : ∀ relation ∈ p.relations, relation.Truthful) {left right : Schema} {condition : Expr}
    (hplan : JoinPlan.make left right condition none = .ok plan) :
    (∀ i, p.pads i = false → p.Truthful i) ∧
      ((∀ a b : Relation, a.schema = left → b.schema = right → a.Truthful → b.Truthful →
          ∀ i, ((scan a).join (scan b) plan).Truthful i) ↔
        ∀ c ∈ right.columns, c.nullable = true) :=
  ⟨fun _ hi => hbuilt.truthful hleaves hi, truthful_join_iff hplan⟩

theorem truthful_ofIntegers (name : String) (numbers : List Int64) :
    (Relation.ofIntegers name numbers).Truthful := by
  intro row hrow i c _ hnull
  obtain ⟨n, -, rfl⟩ := List.mem_map.mp hrow
  simpa using List.mem_of_getElem? hnull

/-- The left column of a join that pads the right one. -/
theorem truthful_of_not_padded_integers :
    let left := Relation.ofIntegers "a" [1]
    let right := Relation.ofIntegers "b" []
    let condition := Expr.binary .equal (.column 0 .integer "a") (.column 1 .integer "b") .boolean
    let plan : JoinPlan := ⟨left.schema ++ right.schema, condition, none,
      .identity (left.schema ++ right.schema), [0], [0], 1⟩
    let p := (scan left).join (scan right) plan
    p.Built ∧ p.Truthful 0 ∧
      ((∀ a b : Relation, a.schema = left.schema → b.schema = right.schema → a.Truthful →
          b.Truthful → ∀ i, ((scan a).join (scan b) plan).Truthful i) ↔ False) := by
  intro left right condition plan p
  have hplan : JoinPlan.make left.schema right.schema condition none = .ok plan := rfl
  have hjoin : (scan left).joinOn (scan right) condition none = .ok (p, plan.logEntry) := rfl
  have hbuilt : p.Built := (Built.scan left).join (.scan right) hjoin
  have hleaves : ∀ relation ∈ p.relations, relation.Truthful := by
    simpa [p, relations] using ⟨truthful_ofIntegers "a" [1], truthful_ofIntegers "b" []⟩
  obtain ⟨htruthful, hiff⟩ := truthful_of_not_padded hbuilt hleaves hplan
  exact ⟨hbuilt, htruthful 0 rfl, hiff.trans (by decide)⟩

/-- A left row that meets an empty table gets a null in a column that is declared to hold none. -/
theorem not_truthful_padded_integers :
    let left := Relation.ofIntegers "a" [1]
    let right := Relation.ofIntegers "b" []
    let condition := Expr.binary .equal (.column 0 .integer "a") (.column 1 .integer "b") .boolean
    ∃ p entry, (scan left).joinOn (scan right) condition none = .ok (p, entry) ∧ p.Built ∧
      (∀ relation ∈ p.relations, relation.Truthful) ∧
      (p.operator.next false (Operator.Session.start p.operator).state).outcome =
        .ok (some [.integer 1, .null]) ∧
      p.schema.columns[1]? = some ⟨"b", .integer, false⟩ ∧ ¬ p.Truthful 1 := by
  intro left right condition
  have hjoin : (scan left).joinOn (scan right) condition none = .ok (_, _) := rfl
  have hbuilt := (Built.scan left).join (.scan right) hjoin
  obtain ⟨At, hreplays⟩ := hbuilt.replays ⟨trivial, trivial⟩
    (show Plan.rows _ = .ok [[.integer 1, .null]] from rfl)
  have hnext := (hreplays.consumer []).2.1
  refine ⟨_, _, hjoin, hbuilt, ?_, hnext, rfl, ?_⟩
  · simpa [relations] using ⟨truthful_ofIntegers "a" [1], truthful_ofIntegers "b" []⟩
  · intro htruthful
    have hnullable := htruthful [] _ hnext ⟨"b", .integer, false⟩ rfl rfl
    cases hnullable

end Plan

end RowEngine
