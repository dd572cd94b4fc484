import RowEngine.Expr.Build
import RowEngine.Expr.Conjuncts
import RowEngine.Proofs.Failing

/-!
# What the constructors refuse

A constructor of expressions that refuses its parts says so with a failure that belongs to building,
whatever its parts are: they need not have been built by constructors themselves.
-/

namespace RowEngine

/-- A computation that fails only with failures that belong to building something. -/
abbrev Refuses {α : Type} (x : Except Failure α) : Prop :=
  FailsOnly (fun e => e.isConstruction = true) x

theorem Schema.refuses_resolve (schema : Schema) (name : String) :
    Refuses (schema.resolve name) := by
  unfold resolve
  split
  · exact .error rfl
  · exact .ok _
  · exact .error rfl

theorem Registry.refuses_resolve (registry : Registry) (name : String) (types : List DataType) :
    Refuses (registry.resolve name types) := by
  unfold resolve
  dsimp only
  split
  · exact .error rfl
  · split
    · exact .ok _
    · exact .error rfl

namespace Expr

variable (context : String) (e l r : Expr)

theorem refuses_asScalar : Refuses (asScalar context e) := by
  unfold asScalar
  split
  · exact .error rfl
  · exact .ok _

theorem refuses_asCondition : Refuses (asCondition context e) := by
  unfold asCondition
  split
  · exact refuses_asScalar context e
  · exact .error rfl

theorem refuses_checkOperand : Refuses (checkOperand context e) := by
  unfold checkOperand
  split
  · exact .ok _
  · exact .error rfl

theorem refuses_checkComparable (a b : DataType) : Refuses (checkComparable context a b) := by
  unfold checkComparable
  split
  · exact .ok _
  · exact .error rfl

theorem refuses_mergeTypes (a b : DataType) : Refuses (mergeTypes a b) := by
  unfold mergeTypes
  split
  · exact .ok _
  split
  · exact .ok _
  split
  · exact .ok _
  · exact .error rfl

theorem refuses_columnAt (schema : Schema) (i : Nat) : Refuses (columnAt schema i) := by
  unfold columnAt
  split
  · exact .ok _
  · exact .error rfl

theorem refuses_columnNamed (schema : Schema) (name : String) :
    Refuses (columnNamed schema name) :=
  (schema.refuses_resolve name).bind fun i _ => refuses_columnAt schema i

theorem refuses_not : Refuses (Expr.not e) :=
  (refuses_asCondition _ e).bind fun _ _ => .ok _

theorem refuses_negate : Refuses (negate e) :=
  (refuses_checkOperand _ e).bind fun _ _ => (refuses_asScalar _ e).bind fun _ _ => .ok _

theorem refuses_binaryOf (op : BinaryOp) : Refuses (binaryOf op l r) := by
  unfold binaryOf
  dsimp only
  split
  · exact (refuses_asCondition _ l).bind fun _ _ => (refuses_asCondition _ r).bind fun _ _ => .ok _
  split
  · exact (refuses_checkOperand _ l).bind fun _ _ => (refuses_checkOperand _ r).bind fun _ _ =>
      (refuses_asScalar _ l).bind fun _ _ => (refuses_asScalar _ r).bind fun _ _ => .ok _
  · exact (refuses_checkComparable _ _ _).bind fun _ _ =>
      (refuses_asScalar _ l).bind fun _ _ => (refuses_asScalar _ r).bind fun _ _ => .ok _

theorem refuses_isNullOf (negated : Bool) : Refuses (isNullOf e negated) :=
  (refuses_asScalar _ e).bind fun _ _ => .ok _

theorem refuses_betweenOf (low high : Expr) (negated : Bool) :
    Refuses (betweenOf e low high negated) :=
  (refuses_checkComparable _ _ _).bind fun _ _ => (refuses_checkComparable _ _ _).bind fun _ _ =>
    (refuses_asScalar _ e).bind fun _ _ => (refuses_asScalar _ low).bind fun _ _ =>
      (refuses_asScalar _ high).bind fun _ _ => .ok _

theorem refuses_inListOf (list : Expr) (negated : Bool) : Refuses (inListOf e list negated) := by
  unfold inListOf
  split
  · exact (FailsOnly.forM fun item _ => refuses_checkComparable _ _ _).bind fun _ _ =>
      (refuses_asScalar _ e).bind fun _ _ => .ok _
  · exact .error rfl

theorem refuses_likeOf (engine : Regex.Engine) (pattern : String) (negated ignoreCase : Bool) :
    Refuses (likeOf engine e pattern negated ignoreCase) := by
  unfold likeOf
  dsimp only
  split
  · exact .error rfl
  split
  · exact .error rfl
  · exact (refuses_asScalar _ e).bind fun _ _ => .ok _

theorem refuses_castOf (target : DataType) : Refuses (castOf e target) :=
  (refuses_asScalar _ e).bind fun _ _ => .ok _

theorem refuses_branchOf (type : DataType) (condition result : Expr) :
    Refuses (branchOf type condition result) :=
  (refuses_asScalar _ result).bind fun _ _ => (refuses_asCondition _ condition).bind fun _ _ =>
    .ok _

theorem refuses_caseWhenOf (branches : List (Expr × Expr)) (otherwise : Option Expr) :
    Refuses (caseWhenOf branches otherwise) := by
  unfold caseWhenOf
  dsimp only
  split
  · exact .error rfl
  refine (FailsOnly.foldlM (fun type e _ => refuses_mergeTypes type e.type) _).bind fun type _ => ?_
  refine (FailsOnly.mapM fun branch _ => refuses_branchOf type _ _).bind fun _ _ => ?_
  cases otherwise with
  | none => exact .ok _
  | some e => exact (refuses_asScalar _ e).bind fun _ _ => .ok _

theorem refuses_callOf (registry : Registry) (name : String) (args : List Expr) :
    Refuses (callOf registry name args) := by
  refine (registry.refuses_resolve name _).bind fun f _ => ?_
  refine (FailsOnly.mapM fun arg _ => ?_).bind fun _ _ => .ok _
  exact (refuses_asScalar _ arg.1).bind fun _ _ => .ok _

/-- What a constructor makes of any parts, be it an expression or a refusal. -/
inductive Attempt : Except Failure Expr → Prop where
  | columnAt (schema : Schema) (i : Nat) : Attempt (columnAt schema i)
  | columnNamed (schema : Schema) (name : String) : Attempt (columnNamed schema name)
  | not (e : Expr) : Attempt (Expr.not e)
  | negate (e : Expr) : Attempt (negate e)
  | binary (op : BinaryOp) (l r : Expr) : Attempt (binaryOf op l r)
  | isNull (e : Expr) (negated : Bool) : Attempt (isNullOf e negated)
  | between (e low high : Expr) (negated : Bool) : Attempt (betweenOf e low high negated)
  | inList (e list : Expr) (negated : Bool) : Attempt (inListOf e list negated)
  | like (engine : Regex.Engine) (e : Expr) (pattern : String) (negated ignoreCase : Bool) :
      Attempt (likeOf engine e pattern negated ignoreCase)
  | cast (e : Expr) (target : DataType) : Attempt (castOf e target)
  | caseWhen (branches : List (Expr × Expr)) (otherwise : Option Expr) :
      Attempt (caseWhenOf branches otherwise)
  | call (registry : Registry) (name : String) (args : List Expr) :
      Attempt (callOf registry name args)

/-- The case split is on the constructor that is tried. -/
theorem Attempt.refuses {x : Except Failure Expr} (h : Attempt x) : Refuses x := by
  cases h with
  | columnAt schema i => exact refuses_columnAt schema i
  | columnNamed schema name => exact refuses_columnNamed schema name
  | not e => exact refuses_not e
  | negate e => exact refuses_negate e
  | binary op l r => exact refuses_binaryOf l r op
  | isNull e negated => exact refuses_isNullOf e negated
  | between e low high negated => exact refuses_betweenOf e low high negated
  | inList e list negated => exact refuses_inListOf e list negated
  | like engine e pattern negated ignoreCase =>
    exact refuses_likeOf e engine pattern negated ignoreCase
  | cast e target => exact refuses_castOf e target
  | caseWhen branches otherwise => exact refuses_caseWhenOf branches otherwise
  | call registry name args => exact refuses_callOf registry name args

/-- Putting conditions together fails only because one of them is no condition. -/
theorem refuses_conjoin (es : List Expr) : Refuses (conjoin es) := by
  cases es with
  | nil => exact .ok none
  | cons first rest =>
    exact (FailsOnly.foldlM (fun l r _ => refuses_binaryOf l r .and) first).bind fun _ _ => .ok _

end Expr

end RowEngine
