import RowEngine.Proofs.Expr.Results
import RowEngine.Proofs.Join.Emission
import RowEngine.Proofs.Plan

/-!
# Rows of a plan conform to its schema

The schema of a plan is settled when the plan is built, and its rows are computed while it runs. If
the tables conform to their schemas, then so does every row that the plan hands out, whatever has
been asked of it and whatever has failed before.
-/

namespace RowEngine

/-- Nulls conform to any schema. -/
theorem Row.conforms_nulls (schema : Schema) : (Row.nulls schema.size).view.Conforms schema := by
  refine ⟨List.length_replicate, ?_⟩
  intro i c hc
  have hi : i < schema.size := (List.getElem?_eq_some_iff.mp hc).1
  exact ⟨.null, by simp [Row.nulls, Row.view, hi], Value.fits_null c.type⟩

namespace Projection

variable {registry : Registry} {p : Projection} {input : Schema} {targets : Option (List Target)}
  {row : RowView} {out : Row}

/-- All targets are built by the constructors over the rows that are read. -/
def Formed (registry : Registry) (p : Projection) : Prop :=
  ∀ targets ∈ p.targets, ∀ t ∈ targets, t.expr.Formed registry p.input

/-- What is written for a row that conforms to the input conforms to the output, if each target
gives values of its type. -/
theorem conforms_apply_of_gives (h : make input targets = .ok p) (hrow : row.Conforms input)
    (htargets : ∀ t ∈ targets.getD [], Gives (·.Fits t.expr.type) (t.expr.eval input row))
    (hout : (p.apply row).result = .ok out) : out.view.Conforms p.output := by
  refine ⟨length_apply h hrow.width hout, ?_⟩
  intro i c hc
  cases targets with
  | none =>
    obtain rfl := Except.ok.inj h
    obtain ⟨v, hv, hfits⟩ := hrow.fits i c hc
    have hi : i < row.width := by
      rw [hrow.width]
      exact (List.getElem?_eq_some_iff.mp hc).1
    obtain ⟨w, hw, hsame⟩ := getElem?_of_identity hout hi
    obtain rfl : v = w := Option.some.inj (hv.symm.trans hsame)
    exact ⟨v, hw, hfits⟩
  | some targets =>
    obtain rfl := make_some_eq_ok h
    rw [result_apply_of_targets rfl] at hout
    rw [List.getElem?_map, Option.map_eq_some_iff] at hc
    obtain ⟨t, ht, rfl⟩ := hc
    obtain ⟨v, hv, heval⟩ := getElem?_of_mapM hout ht
    exact ⟨v, hv, htargets t (List.mem_of_getElem? ht) v heval⟩

/-- Targets that are built by the constructors give values of their types. -/
theorem conforms_apply (h : make input targets = .ok p)
    (hregistry : ∀ f ∈ registry.functions, f.Declares) (hformed : p.Formed registry)
    (hrow : row.Conforms input) (hout : (p.apply row).result = .ok out) :
    out.view.Conforms p.output := by
  refine conforms_apply_of_gives h hrow ?_ hout
  obtain ⟨rfl, rfl⟩ := make_eq_ok h
  intro t ht
  cases hsome : p.targets with
  | none => simp [hsome] at ht
  | some targets => exact (hformed targets hsome t (by simpa [hsome] using ht)).gives hregistry hrow

end Projection

namespace Plan

/-- The tables that a plan scans, left to right. -/
def relations : Plan → List Relation
  | scan relation => [relation]
  | scripted _ => []
  | filter input _ | project input _ | limit input _ | sort input _ => input.relations
  | join left right _ => left.relations ++ right.relations

/-- All targets of a plan are built by the constructors. The predicates and the join conditions of
the plan do not come into it: they only select rows. -/
def TargetsFormed (registry : Registry) : Plan → Prop
  | scan _ | scripted _ => True
  | filter input _ | limit input _ | sort input _ => input.TargetsFormed registry
  | project input projection => input.TargetsFormed registry ∧ projection.Formed registry
  | join left right plan => left.TargetsFormed registry ∧ right.TargetsFormed registry ∧
      plan.projection.Formed registry

variable {registry : Registry} {p : Plan}

/-- The induction is on the tree: each operator writes conforming rows for conforming rows. -/
theorem Built.emits_conforming (h : p.Built) (hregistry : ∀ f ∈ registry.functions, f.Declares)
    (htargets : p.TargetsFormed registry)
    (hleaves : ∀ relation ∈ p.relations, ∀ row ∈ relation.rows,
      row.view.Conforms relation.schema) :
    ∃ Inv, p.operator.Emits (·.view.Conforms p.schema) Inv := by
  induction h with
  | scan relation => exact ⟨_, .scan (hleaves relation (by simp [relations]))⟩
  | filter _ hp ih =>
    obtain rfl := filterBy_eq_ok hp
    obtain ⟨Inv, hinput⟩ := ih htargets hleaves
    exact ⟨Inv, hinput.filter _⟩
  | project _ hp ih =>
    obtain ⟨projection, hmake, rfl⟩ := projectTo_eq_ok hp
    obtain ⟨Inv, hinput⟩ := ih htargets.1 hleaves
    exact ⟨Inv, hinput.project fun row out hrow hout =>
      Projection.conforms_apply hmake hregistry htargets.2 hrow hout⟩
  | limit _ count ih =>
    obtain ⟨Inv, hinput⟩ := ih htargets hleaves
    exact ⟨_, hinput.limit count⟩
  | sort _ hp ih =>
    obtain ⟨keys, rfl⟩ := sortBy_eq_ok hp
    obtain ⟨Inv, hinput⟩ := ih htargets hleaves
    exact ⟨_, hinput.sort keys⟩
  | @join left right _ _ _ _ _ _ hp ihleft ihright =>
    obtain ⟨plan, hplan, rfl⟩ := joinOn_eq_ok hp
    obtain ⟨hleftTargets, hrightTargets, hprojection⟩ := htargets
    obtain ⟨InvLeft, hleft⟩ := ihleft hleftTargets fun relation hmem =>
      hleaves relation (by simp [relations, hmem])
    obtain ⟨InvRight, hright⟩ := ihright hrightTargets fun relation hmem =>
      hleaves relation (by simp [relations, hmem])
    obtain ⟨pairs, hjoins⟩ := JoinPlan.joins_of_make hplan
    have hwrite {l r out : Row} (hl : l.view.Conforms left.schema)
        (hr : r.view.Conforms right.schema) (hout : plan.output l r = .ok out) :
        out.view.Conforms plan.projection.output :=
      Projection.conforms_apply hjoins.projection hregistry hprojection
        (Frame.conforms (f := ⟨l, r⟩) hl hr) hout
    refine ⟨_, hleft.leftJoin hright (fun l r out hl hr => hwrite hl hr) ?_⟩
    intro l out hl hout
    rw [JoinPlan.padding, hjoins.rightWidth] at hout
    exact hwrite hl (Row.conforms_nulls right.schema) hout

open Operator

/-- Whatever has been asked of a plan before, the next row has a value for each column of the plan,
and each value is null or of the type of its column. -/
theorem conforms_of_next (hbuilt : p.Built)
    (hregistry : ∀ f ∈ registry.functions, f ∈ Builtin.registry.functions ∨ f.Declares)
    (htargets : p.TargetsFormed registry)
    (hleaves : ∀ relation ∈ p.relations, ∀ row ∈ relation.rows, row.view.Conforms relation.schema)
    (requests : List Request) {row : Row}
    (hrow : (p.operator.next false ((Session.start p.operator).run requests).state).outcome =
      .ok (some row)) : row.view.Conforms p.schema := by
  obtain ⟨Inv, hemits⟩ := hbuilt.emits_conforming
    (fun f hf => ScalarFunction.declares_of_builtin (hregistry f hf)) htargets hleaves
  exact hemits.next_run requests hrow

/-- The sum of a column and of a column that a join has padded, after the plan was started over. -/
theorem conforms_of_next_sum :
    let left := scan (.ofIntegers "a" [1])
    let right := scan (.ofIntegers "b" [2])
    let a : Expr := .column 0 .integer "a"
    let b : Expr := .column 1 .integer "b"
    let targets : List Target := [⟨a, "a"⟩, ⟨.binary .plus a b .integer, "sum"⟩]
    let input := left.schema ++ right.schema
    let plan : JoinPlan :=
      ⟨input, .binary .equal a b .boolean, none, .identity input, [0], [0], 1⟩
    let p := (left.join right plan).project
      ⟨input, ⟨[⟨"a", .integer, true⟩, ⟨"sum", .integer, true⟩]⟩, some targets⟩
    (p.operator.next false ((Session.start p.operator).run [.next, .rescan]).state).outcome =
        .ok (some [.integer 1, .null]) ∧
      (Row.view [.integer 1, .null]).Conforms p.schema := by
  intro left right a b targets input plan p
  have hjoin : left.joinOn right (.binary .equal a b .boolean) none =
      .ok (left.join right plan, plan.logEntry) := rfl
  have hproject : (left.join right plan).projectTo targets = .ok p := rfl
  have hbuilt : p.Built := ((Built.scan _).join (.scan _) hjoin).project hproject
  have htargets : p.TargetsFormed Builtin.registry := by
    have ha : a.Formed Builtin.registry input := .columnAt (i := 0) rfl rfl
    have hb : b.Formed Builtin.registry input := .columnAt (i := 1) rfl rfl
    have hsum : Expr.binaryOf .plus a b = .ok (.binary .plus a b .integer) := rfl
    refine ⟨⟨trivial, trivial, by simp [plan, Projection.Formed, Projection.identity]⟩, ?_⟩
    rintro _ ⟨⟩
    simpa [targets] using ⟨ha, .binary ha hb hsum⟩
  have hleaves : ∀ relation ∈ p.relations, ∀ row ∈ relation.rows,
      row.view.Conforms relation.schema := by
    have hscans : p.relations = [.ofIntegers "a" [1], .ofIntegers "b" [2]] := rfl
    simp only [hscans, List.forall_mem_cons]
    exact ⟨Relation.conforms_ofIntegers "a" [1], Relation.conforms_ofIntegers "b" [2], by simp⟩
  have hrow : (p.operator.next false
      ((Session.start p.operator).run [.next, .rescan]).state).outcome =
        .ok (some [.integer 1, .null]) := by
    have hrows : p.rows = .ok [[.integer 1, .null]] := rfl
    obtain ⟨At, hreplays⟩ := hbuilt.replays ⟨trivial, trivial⟩ hrows
    exact (hreplays.consumer [.next, .rescan]).2.1
  exact ⟨hrow, conforms_of_next hbuilt (fun _ hf => .inl hf) htargets hleaves _ hrow⟩

end Plan

end RowEngine
