import RowEngine.Proofs.Expr.Inside
import RowEngine.Proofs.Expr.References

/-!
# What an evaluation depends on

Two evaluations of expressions that have the same nodes but for what their columns are called give
the same value or the same error and make the same calls, if the rows have one width and agree on
the columns among the nodes. What the schema says, what columns are called and what other columns
hold makes no difference, as long as there is no extension.
-/

namespace RowEngine.Expr

theorem argsExtensionFree_iff {args : List Expr} :
    argsExtensionFree args = true ↔ ∀ c ∈ args, c.extensionFree = true := by
  induction args with
  | nil => simp [argsExtensionFree]
  | cons e rest ih => simp [argsExtensionFree, ih]

theorem branchesExtensionFree_iff {branches : List (Expr × Expr)} :
    branchesExtensionFree branches = true ↔
      ∀ b ∈ branches, b.1.extensionFree = true ∧ b.2.extensionFree = true := by
  induction branches with
  | nil => simp [branchesExtensionFree]
  | cons b rest ih => simp [branchesExtensionFree, ih]

/-- Whether there is an extension in a tree is settled by its root and the trees below. -/
theorem extensionFree_iff_children {e : Expr} : e.extensionFree = true ↔
    (∀ node, e ≠ extension node) ∧ ∀ c ∈ e.children, c.extensionFree = true := by
  cases e with
  | column | const | rowConst => simp [extensionFree, children]
  | unary | isNull | cast | like | binary | between | inList =>
    simp [extensionFree, children, and_assoc]
  | caseWhen branches otherwise type =>
    have hotherwise : elseExtensionFree otherwise = true ↔
        ∀ c ∈ otherwise, c.extensionFree = true := by
      cases otherwise <;> simp [elseExtensionFree]
    simp only [extensionFree, Bool.and_eq_true, branchesExtensionFree_iff, hotherwise,
      mem_children_caseWhen]
    constructor
    · rintro ⟨hbranches, helse⟩
      refine ⟨nofun, ?_⟩
      rintro c (⟨b, hb, rfl | rfl⟩ | rfl)
      · exact (hbranches b hb).1
      · exact (hbranches b hb).2
      · exact helse c rfl
    · rintro ⟨-, h⟩
      exact ⟨fun b hb => ⟨h _ (.inl ⟨b, hb, .inl rfl⟩), h _ (.inl ⟨b, hb, .inr rfl⟩)⟩,
        fun c hc => h c (.inr hc)⟩
  | call f args => simp [extensionFree, children, argsExtensionFree_iff]
  | extension node => simp [extensionFree]

/-- An expression is free of extensions just if no node in it is one. -/
theorem extensionFree_iff_within {e : Expr} :
    e.extensionFree = true ↔ ∀ node, ¬ (extension node).Within e := by
  constructor
  · intro he node h
    induction h with
    | self => cases he
    | child hc _ ih => exact ih ((extensionFree_iff_children.mp he).2 _ hc)
  · intro h
    induction e using induction_children with
    | h e ih =>
      refine extensionFree_iff_children.mpr ⟨?_, fun c hc => ih c hc fun node hnode => ?_⟩
      · rintro node rfl
        exact h node .self
      · exact h node (.child hc hnode)

/-- What reads a column without having children is a column. -/
theorem references_of_leaf {e : Expr} (h : e.children = []) {ref : ColumnRef}
    (href : ref ∈ e.references) : ∃ type, e = column ref.id type ref.name := by
  cases e with
  | column id type name =>
    obtain rfl : ref = ⟨id, name⟩ := by simpa [references] using href
    exact ⟨type, rfl⟩
  | const | rowConst | extension => simp [references] at href
  | unary | isNull | cast | like | binary | between | inList => cases h
  | caseWhen branches otherwise type =>
    rw [children, List.append_eq_nil_iff] at h
    cases otherwise with
    | some e => simp at h
    | none => simp [references, branchReferences_eq_flatMap, h.1, elseReferences] at href
  | call f args =>
    rw [children] at h
    simp [references, argReferences_eq_flatMap, h] at href

/-- What is read is a column among the nodes. -/
theorem within_of_mem_references {e : Expr} {ref : ColumnRef} (h : ref ∈ e.references) :
    ∃ type, (column ref.id type ref.name).Within e := by
  induction e using induction_children with
  | h e ih =>
    by_cases hleaf : e.children = []
    · obtain ⟨type, rfl⟩ := references_of_leaf hleaf h
      exact ⟨type, .self⟩
    · rw [references_eq_flatMap hleaf] at h
      obtain ⟨c, hc, href⟩ := List.mem_flatMap.mp h
      obtain ⟨type, hwithin⟩ := ih c hc href
      exact ⟨type, .child hc hwithin⟩

mutual

/-- The same nodes, without what a schema said of the columns. -/
def bare : Expr → Expr
  | column id _ _ => column id .null ""
  | const v => const v
  | rowConst values => rowConst values
  | unary op arg => unary op (bare arg)
  | binary op left right type => binary op (bare left) (bare right) type
  | isNull arg negated => isNull (bare arg) negated
  | between arg low high negated => between (bare arg) (bare low) (bare high) negated
  | inList arg list negated => inList (bare arg) (bare list) negated
  | like arg pattern regex negated => like (bare arg) pattern regex negated
  | cast arg target => cast (bare arg) target
  | caseWhen branches otherwise type => caseWhen (bareBranches branches) (bareElse otherwise) type
  | call f args => call f (bareArgs args)
  | extension node => extension node
termination_by structural e => e

def bareArgs : List Expr → List Expr
  | [] => []
  | e :: rest => bare e :: bareArgs rest
termination_by structural es => es

def bareBranches : List (Expr × Expr) → List (Expr × Expr)
  | [] => []
  | (condition, result) :: rest => (bare condition, bare result) :: bareBranches rest
termination_by structural bs => bs

def bareElse : Option Expr → Option Expr
  | none => none
  | some e => some (bare e)
termination_by structural o => o

end

section

variable (schema : Schema) (row : RowView)

mutual

/-- One case for each kind of node: evaluation takes nothing from a column but its place. -/
theorem eval_bare : (e : Expr) → e.bare.eval schema row = e.eval schema row
  | column _ _ _ => by simp only [bare, eval]
  | const _ => by simp only [bare]
  | rowConst _ => by simp only [bare]
  | unary _ arg => by simp only [bare, eval, eval_bare arg]
  | binary _ left right _ => by simp only [bare, eval, eval_bare left, eval_bare right]
  | isNull arg _ => by simp only [bare, eval, eval_bare arg]
  | between arg low high _ => by
    simp only [bare, eval, eval_bare arg, eval_bare low, eval_bare high]
  | inList arg list _ => by
    have harg := eval_bare arg
    cases list <;> simp only [bare, eval, harg]
  | like arg _ _ _ => by simp only [bare, eval, eval_bare arg]
  | cast arg _ => by simp only [bare, eval, eval_bare arg]
  | caseWhen branches otherwise _ => by
    simp only [bare, eval, evalBranches_bare branches, evalElse_bare otherwise]
  | call _ args => by simp only [bare, eval, evalAll_bare args]
  | extension _ => by simp only [bare]
termination_by structural e => e

theorem evalAll_bare : (es : List Expr) →
    evalAll schema row (bareArgs es) = evalAll schema row es
  | [] => by simp only [bareArgs]
  | e :: rest => by simp only [bareArgs, evalAll, eval_bare e, evalAll_bare rest]
termination_by structural es => es

theorem evalBranches_bare : (bs : List (Expr × Expr)) →
    evalBranches schema row (bareBranches bs) = evalBranches schema row bs
  | [] => by simp only [bareBranches]
  | (condition, result) :: rest => by
    simp only [bareBranches, evalBranches, eval_bare condition, eval_bare result,
      evalBranches_bare rest]
termination_by structural bs => bs

theorem evalElse_bare : (o : Option Expr) →
    evalElse schema row (bareElse o) = evalElse schema row o
  | none => by simp only [bareElse]
  | some e => by simp only [bareElse, evalElse, eval_bare e]
termination_by structural o => o

end

end

/-- Expressions with the same nodes but for the names and types of columns give the same on rows
that agree on these columns, errors and calls included, over any schemas. -/
theorem eval_congr_bare {e e' : Expr} {schema schema' : Schema} {row row' : RowView}
    (hfree : ∀ node, ¬ (extension node).Within e) (hbare : e'.bare = e.bare)
    (hwidth : row.width = row'.width)
    (hagree : ∀ id type name, (column id type name).Within e → row.value id = row'.value id) :
    e.eval schema row = e'.eval schema' row' := by
  have hrefs : Agree row row' e.references := by
    intro ref href
    obtain ⟨type, hwithin⟩ := within_of_mem_references href
    exact hagree ref.id type ref.name hwithin
  calc e.eval schema row
      = e.eval schema' row' := eval_congr hwidth e (extensionFree_iff_within.mpr hfree) hrefs
    _ = e'.eval schema' row' := by rw [← eval_bare, ← hbare, eval_bare]

/-- An evaluation depends on nothing but the columns among the nodes. On a left row with some right
row, an expression over left columns gives what it gives with any other right row of that width. -/
theorem eval_depends_on_columns (e : Expr) (hfree : ∀ node, ¬ (extension node).Within e) :
    (∀ (e' : Expr) (schema schema' : Schema) (row row' : RowView), e'.bare = e.bare →
      row.width = row'.width →
      (∀ id type name, (column id type name).Within e → row.value id = row'.value id) →
      e.eval schema row = e'.eval schema' row') ∧
    ∀ (left right right' : Row) (schema schema' : Schema), right.length = right'.length →
      (∀ id type name, (column id type name).Within e → id < left.length) →
      e.eval schema (Frame.mk left right).view = e.eval schema' (Frame.mk left right').view := by
  constructor
  · intro e' schema schema' row row' hbare hwidth hagree
    exact eval_congr_bare hfree hbare hwidth hagree
  · intro left right right' schema schema' hlength hleft
    refine eval_congr_bare hfree rfl (congrArg (left.length + ·) hlength) ?_
    intro id type name hwithin
    have hid := hleft id type name hwithin
    simp only [Frame.view, if_pos hid]

/-- A condition over the left columns `a` and `b` that calls a function and then divides by zero,
on a left row that is padded and with a right row, and with its columns called something else. -/
theorem eval_depends_on_columns_padded :
    let any : ScalarFunction := ⟨"any", [.integer], .boolean, .called, fun _ => .ok .null, 0⟩
    let condition (a b : String) := Expr.binary .and (.call any [.column 0 .integer a])
      (.binary .equal (.binary .divide (.const (.integer 1)) (.column 1 .integer b) .integer)
        (.const (.integer 1)) .boolean) .boolean
    let e := condition "a" "b"
    let left : Row := [.integer 1, .integer 0]
    let padded := (Frame.mk left (.nulls 1)).view
    let joined := (Frame.mk left [.text "b"]).view
    (∀ node, ¬ (extension node).Within e) ∧ (condition "b" "").bare = e.bare ∧
      (e.eval ⟨[]⟩ padded).result = .error .divisionByZero ∧
      e.eval ⟨[]⟩ padded = (condition "b" "").eval ⟨[⟨"c", .text, true⟩]⟩ joined ∧
      e.eval ⟨[]⟩ padded = e.eval ⟨[⟨"c", .text, true⟩]⟩ joined := by
  intro any condition e left padded joined
  have hfree : ∀ node, ¬ (extension node).Within e := extensionFree_iff_within.mp rfl
  have hcolumns : ∀ id type name, (column id type name).Within e → id < left.length := by
    intro id type name h
    have href := mem_references_of_within h
    have hid : id = 0 ∨ id = 1 := by
      simp [e, condition, references, argReferences] at href
      omega
    rcases hid with rfl | rfl <;> decide
  obtain ⟨hsame, hframe⟩ := eval_depends_on_columns e hfree
  refine ⟨hfree, rfl, rfl, hsame _ _ _ _ _ rfl rfl ?_, hframe left _ _ _ _ rfl hcolumns⟩
  intro id type name h
  have hid := hcolumns id type name h
  simp only [padded, joined, Frame.view, if_pos hid]

end RowEngine.Expr
