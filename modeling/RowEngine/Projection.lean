import RowEngine.Expr.Build
import RowEngine.Expr.Eval

/-!
# Projections

A projection writes an output row for each input row: the input row itself or the values of a list
of targets. Where a target fails, the values before it have been written.
-/

namespace RowEngine

structure Target where
  expr : Expr
  name : String

def Target.column (schema : Schema) (name : String) : Except Failure Target := do
  return ⟨← Expr.columnNamed schema name, name⟩

/-- What has been written when writing ends, and how it ended. -/
structure Output where
  row : Row
  status : Evaluation Unit

/-- Writes one value for each item, up to the first that fails. -/
def Output.ofEach {α : Type} (value : α → Evaluation Value) : List α → Output
  | [] => ⟨[], .ok ()⟩
  | a :: rest =>
    let x := value a
    match x.result with
    | .error e => ⟨[], ⟨.error e, x.trace⟩⟩
    | .ok v =>
      let output := ofEach value rest
      ⟨v :: output.row, ⟨output.status.result, x.trace ++ output.status.trace⟩⟩

structure Projection where
  input : Schema
  output : Schema
  /-- `none` passes rows through unchanged. -/
  targets : Option (List Target)

namespace Projection

def identity (input : Schema) : Projection := ⟨input, input, none⟩

/-- Every target column may hold nulls. -/
def ofTargets (input : Schema) (targets : List Target) : Except Failure Projection :=
  if targets.isEmpty then .error (.invalidExpression .noTarget)
  else .ok ⟨input, ⟨targets.map fun t => ⟨t.name, t.expr.type, true⟩⟩, some targets⟩

def make (input : Schema) : Option (List Target) → Except Failure Projection
  | some targets => ofTargets input targets
  | none => .ok (identity input)

def readColumn (row : RowView) (i : Nat) : Evaluation Value :=
  match row.value i with
  | some v => .ok v
  | none => .error (.columnOutOfBounds i row.width)

def write (p : Projection) (row : RowView) : Output :=
  match p.targets with
  | none => .ofEach (readColumn row) (List.range row.width)
  | some targets => .ofEach (fun t => t.expr.eval p.input row) targets

def apply (p : Projection) (row : RowView) : Evaluation Row :=
  let output := p.write row
  ⟨output.status.result.map fun _ => output.row, output.status.trace⟩

end Projection

end RowEngine
