import RowEngine.Expr.Eval
import RowEngine.Expr.References
import RowEngine.Proofs.Outcome

/-!
# Evaluation reads the columns that are referenced

Apart from extensions, which read the row as they like, an expression gives the same on two rows of
one width that agree on the columns it refers to. The schema makes no difference.
-/

namespace RowEngine.Expr

mutual

/-- No node of an expression is an extension. -/
def extensionFree : Expr → Bool
  | column _ _ _ | const _ | rowConst _ => true
  | extension _ => false
  | unary _ arg | isNull arg _ | cast arg _ | like arg _ _ _ => extensionFree arg
  | binary _ left right _ => extensionFree left && extensionFree right
  | between arg low high _ => extensionFree arg && extensionFree low && extensionFree high
  | inList arg list _ => extensionFree arg && extensionFree list
  | caseWhen branches otherwise _ => branchesExtensionFree branches && elseExtensionFree otherwise
  | call _ args => argsExtensionFree args
termination_by structural e => e

def argsExtensionFree : List Expr → Bool
  | [] => true
  | e :: rest => extensionFree e && argsExtensionFree rest
termination_by structural es => es

def branchesExtensionFree : List (Expr × Expr) → Bool
  | [] => true
  | (condition, result) :: rest =>
    extensionFree condition && extensionFree result && branchesExtensionFree rest
termination_by structural bs => bs

def elseExtensionFree : Option Expr → Bool
  | none => true
  | some e => extensionFree e
termination_by structural o => o

end

def Agree (row row' : RowView) (refs : List ColumnRef) : Prop :=
  ∀ ref ∈ refs, row.value ref.id = row'.value ref.id

theorem agree_append {row row' : RowView} {refs refs' : List ColumnRef} :
    Agree row row' (refs ++ refs') ↔ Agree row row' refs ∧ Agree row row' refs' :=
  List.forall_mem_append

section

variable {schema schema' : Schema} {row row' : RowView}

mutual

/-- One case for each kind of node: its parts give the same, and so does what is made of them. -/
theorem eval_congr (hwidth : row.width = row'.width) : (e : Expr) → e.extensionFree = true →
    Agree row row' e.references → e.eval schema row = e.eval schema' row'
  | column id _ name, _, h => by
    have hvalue : row.value id = row'.value id := h ⟨id, name⟩ (by simp [references])
    simp only [eval, hvalue, hwidth]
  | const _, _, _ => by simp only [eval]
  | rowConst _, _, _ => by simp only [eval]
  | unary op arg, hfree, h => by
    have harg := eval_congr hwidth arg hfree h
    simp only [eval, harg]
  | binary op left right _, hfree, h => by
    simp only [extensionFree, Bool.and_eq_true] at hfree
    simp only [references, agree_append] at h
    have hleft := eval_congr hwidth left hfree.1 h.1
    have hright := eval_congr hwidth right hfree.2 h.2
    simp only [eval, hleft, hright]
  | isNull arg _, hfree, h => by
    have harg := eval_congr hwidth arg hfree h
    simp only [eval, harg]
  | between arg low high _, hfree, h => by
    simp only [extensionFree, Bool.and_eq_true] at hfree
    simp only [references, agree_append] at h
    have harg := eval_congr hwidth arg hfree.1.1 h.1.1
    have hlow := eval_congr hwidth low hfree.1.2 h.1.2
    have hhigh := eval_congr hwidth high hfree.2 h.2
    simp only [eval, harg, hlow, hhigh]
  | inList arg list _, hfree, h => by
    simp only [extensionFree, Bool.and_eq_true] at hfree
    simp only [references, agree_append] at h
    have harg := eval_congr hwidth arg hfree.1 h.1
    cases list <;> simp only [eval, harg]
  | like arg _ _ _, hfree, h => by
    have harg := eval_congr hwidth arg hfree h
    simp only [eval, harg]
  | cast arg _, hfree, h => by
    have harg := eval_congr hwidth arg hfree h
    simp only [eval, harg]
  | caseWhen branches otherwise _, hfree, h => by
    simp only [extensionFree, Bool.and_eq_true] at hfree
    simp only [references, agree_append] at h
    have hbranches := evalBranches_congr hwidth branches hfree.1 h.1
    have helse := evalElse_congr hwidth otherwise hfree.2 h.2
    simp only [eval, hbranches, helse]
  | call f args, hfree, h => by
    have hargs := evalAll_congr hwidth args hfree h
    simp only [eval, hargs]
  | extension _, hfree, _ => by cases hfree
termination_by structural e => e

theorem evalAll_congr (hwidth : row.width = row'.width) : (es : List Expr) →
    argsExtensionFree es = true → Agree row row' (argReferences es) →
    evalAll schema row es = evalAll schema' row' es
  | [], _, _ => by simp only [evalAll]
  | e :: rest, hfree, h => by
    simp only [argsExtensionFree, Bool.and_eq_true] at hfree
    simp only [argReferences, agree_append] at h
    have he := eval_congr hwidth e hfree.1 h.1
    have hrest := evalAll_congr hwidth rest hfree.2 h.2
    simp only [evalAll, he, hrest]
termination_by structural es => es

theorem evalBranches_congr (hwidth : row.width = row'.width) : (bs : List (Expr × Expr)) →
    branchesExtensionFree bs = true → Agree row row' (branchReferences bs) →
    evalBranches schema row bs = evalBranches schema' row' bs
  | [], _, _ => by simp only [evalBranches]
  | (condition, result) :: rest, hfree, h => by
    simp only [branchesExtensionFree, Bool.and_eq_true] at hfree
    simp only [branchReferences, agree_append] at h
    have hcondition := eval_congr hwidth condition hfree.1.1 h.1.1
    have hresult := eval_congr hwidth result hfree.1.2 h.1.2
    have hrest := evalBranches_congr hwidth rest hfree.2 h.2
    simp only [evalBranches, hcondition, hresult, hrest]
termination_by structural bs => bs

theorem evalElse_congr (hwidth : row.width = row'.width) : (o : Option Expr) →
    elseExtensionFree o = true → Agree row row' (elseReferences o) →
    evalElse schema row o = evalElse schema' row' o
  | none, _, _ => by simp only [evalElse]
  | some e, hfree, h => by
    have he := eval_congr hwidth e hfree h
    simp only [evalElse, he]
termination_by structural o => o

end

end

end RowEngine.Expr
