import RowEngine.Projection
import RowEngine.Proofs.Outcome

/-!
# What projections write

A projection writes a whole row just if none of its targets fails. Without targets it copies the
row.
-/

namespace RowEngine

variable {row : RowView} {p : Projection}

/-- A written row is whole just if every value of it is there. -/
theorem Output.result_ofEach {α : Type} (value : α → Evaluation Value) (as : List α) :
    (ofEach value as).status.result.map (fun _ => (ofEach value as).row) =
      as.mapM fun a => (value a).result := by
  induction as with
  | nil => rfl
  | cons a rest ih =>
    rw [List.mapM_cons, ← ih]
    cases h : (value a).result with
    | error e => simp [ofEach, h, bind, Except.bind, Except.map]
    | ok v =>
      cases hrest : (ofEach value rest).status.result <;>
        simp [ofEach, h, hrest, bind, Except.bind, Except.map, pure, Except.pure]

namespace Projection

/-- The value of each target. -/
theorem result_apply_of_targets {targets : List Target} (h : p.targets = some targets) :
    (p.apply row).result = targets.mapM fun t => (t.expr.eval p.input row).result := by
  have hwrite := Output.result_ofEach (fun t : Target => t.expr.eval p.input row) targets
  rw [← hwrite]
  simp only [apply, write, h]

/-- The row itself. -/
theorem result_apply_of_none (h : p.targets = none) :
    (p.apply row).result = (List.range row.width).mapM fun i => (readColumn row i).result := by
  have hwrite := Output.result_ofEach (readColumn row) (List.range row.width)
  rw [← hwrite]
  simp only [apply, write, h]

/-- Every column that is written for a target may hold nulls. -/
theorem make_some_eq_ok {input : Schema} {targets : List Target}
    (h : make input (some targets) = .ok p) :
    p = ⟨input, ⟨targets.map fun t => ⟨t.name, t.expr.type, true⟩⟩, some targets⟩ := by
  simp only [make, ofTargets] at h
  split at h
  · cases h
  · exact (Except.ok.inj h).symm

theorem make_eq_ok {input : Schema} {targets : Option (List Target)}
    (h : make input targets = .ok p) : p.input = input ∧ p.targets = targets := by
  cases targets with
  | none =>
    obtain rfl := Except.ok.inj h
    exact ⟨rfl, rfl⟩
  | some targets =>
    obtain rfl := make_some_eq_ok h
    exact ⟨rfl, rfl⟩

/-- A row is written where no target fails and every column can be read. -/
theorem exists_apply {input : Schema} {targets : Option (List Target)}
    (h : make input targets = .ok p) (hrow : ∀ i < row.width, ∃ v, row.value i = some v)
    (htargets : ∀ t ∈ targets.getD [], ∃ v, (t.expr.eval input row).result = .ok v) :
    ∃ out, (p.apply row).result = .ok out := by
  obtain ⟨rfl, rfl⟩ := make_eq_ok h
  cases hp : p.targets with
  | none =>
    rw [result_apply_of_none hp]
    apply exists_mapM
    intro i hi
    obtain ⟨v, hv⟩ := hrow i (List.mem_range.mp hi)
    exact ⟨v, by simp [readColumn, hv]⟩
  | some targets =>
    rw [result_apply_of_targets hp]
    apply exists_mapM
    intro t ht
    exact htargets t (by simpa [hp] using ht)

/-- A written row has a value for each output column. -/
theorem length_apply {input : Schema} {targets : Option (List Target)} {out : Row}
    (h : make input targets = .ok p) (hrow : row.width = input.size)
    (hout : (p.apply row).result = .ok out) : out.length = p.output.size := by
  cases targets with
  | none =>
    obtain rfl := Except.ok.inj h
    rw [result_apply_of_none rfl] at hout
    rw [length_mapM hout, List.length_range, hrow]
    rfl
  | some targets =>
    obtain rfl := make_some_eq_ok h
    rw [result_apply_of_targets rfl] at hout
    simp [length_mapM hout, Schema.size]

/-- A copied row has the values of the row. -/
theorem getElem?_of_identity {input : Schema} {out : Row}
    (hout : ((identity input).apply row).result = .ok out) {i : Nat} (hi : i < row.width) :
    ∃ v, out[i]? = some v ∧ row.value i = some v := by
  rw [result_apply_of_none rfl] at hout
  obtain ⟨v, hv, hread⟩ := getElem?_of_mapM hout (List.getElem?_range hi)
  refine ⟨v, hv, ?_⟩
  unfold readColumn at hread
  split at hread
  · rename_i w hw
    rw [hw, show w = v from Except.ok.inj hread]
  · cases hread

/-- A pair of rows that is written as it is holds the left row in its first columns. -/
theorem getElem?_of_pair {input : Schema} {l r out : Row} {i : Nat}
    (hout : ((identity input).apply (Frame.mk l r).view).result = .ok out) (hi : i < l.length) :
    out[i]? = l[i]? := by
  have hwidth : i < (Frame.mk l r).view.width := Nat.lt_add_right _ hi
  obtain ⟨v, hv, hread⟩ := getElem?_of_identity hout hwidth
  rw [hv, ← hread]
  exact if_pos hi

end Projection

end RowEngine
