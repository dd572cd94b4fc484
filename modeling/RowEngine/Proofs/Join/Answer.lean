import RowEngine.Join.LeftOuter
import RowEngine.Proofs.Join.Table

/-!
# The rows of a left outer join

What a left outer join answers to a left row, as a function of this row and of all right rows. The
partners of a left row are taken in their order for as long as the filter is true on them.
-/

namespace RowEngine.JoinPlan

/-- Two rows are partners if their keys are the same and hold no null. -/
def links (plan : JoinPlan) (left right : Row) : Bool :=
  !hasNull (left.pick plan.leftKeys) && belongs plan.rightKeys (left.pick plan.leftKeys) right

def partners (plan : JoinPlan) (rights : List Row) (left : Row) : List Row :=
  rights.filter (plan.links left)

def admits (plan : JoinPlan) (left right : Row) : Except EvalError Bool :=
  match plan.filter with
  | some filter => (filter.holds plan.input (Frame.mk left right).view).result
  | none => .ok true

def output (plan : JoinPlan) (left right : Row) : Except EvalError Row :=
  (plan.projection.apply (Frame.mk left right).view).result

/-- The output row of a left row with nulls on the right. -/
def padding (plan : JoinPlan) (left : Row) : Except EvalError Row :=
  plan.output left (Row.nulls plan.rightWidth)

/-- The output rows of a left row with partners: one for each partner on which the filter is true,
up to the first on which it is not. That one leaves a padded row and ends the streak. -/
def streak (plan : JoinPlan) (left : Row) : List Row → Except EvalError (List Row)
  | [] => .ok []
  | right :: rest => do
    if ← plan.admits left right then
      let out ← plan.output left right
      let more ← plan.streak left rest
      return out :: more
    else
      let out ← plan.padding left
      return [out]

/-- All output rows of a left row; a row without partners is padded. -/
def answer (plan : JoinPlan) (rights : List Row) (left : Row) : Except EvalError (List Row) :=
  match plan.partners rights left with
  | [] => do return [← plan.padding left]
  | right :: rest => plan.streak left (right :: rest)

def rows (plan : JoinPlan) (rights lefts : List Row) : Except EvalError (List Row) :=
  (lefts.mapM (plan.answer rights)).map List.flatten

variable {plan : JoinPlan} {left right : Row} {lefts rest rights out : List Row}

/-- A streak goes on over a partner that the filter admits and ends, padded, at the first other one.
-/
theorem streak_cons_eq_ok : plan.streak left (right :: rest) = .ok out ↔
    (∃ row more, plan.admits left right = .ok true ∧ plan.output left right = .ok row ∧
      plan.streak left rest = .ok more ∧ out = row :: more) ∨
    (∃ row, plan.admits left right = .ok false ∧ plan.padding left = .ok row ∧ out = [row]) := by
  rw [streak, bind_eq_ok]
  constructor
  · rintro ⟨b, hadmits, h⟩
    cases b with
    | true =>
      simp only [↓reduceIte, bind_eq_ok, pure, Except.pure, Except.ok.injEq] at h
      obtain ⟨row, hrow, more, hmore, rfl⟩ := h
      exact .inl ⟨row, more, hadmits, hrow, hmore, rfl⟩
    | false =>
      simp only [Bool.false_eq_true, ↓reduceIte, bind_eq_ok, pure, Except.pure,
        Except.ok.injEq] at h
      obtain ⟨row, hrow, rfl⟩ := h
      exact .inr ⟨row, hadmits, hrow, rfl⟩
  · rintro (⟨row, more, hadmits, hrow, hmore, rfl⟩ | ⟨row, hadmits, hrow, rfl⟩)
    · exact ⟨true, hadmits, by simp [hrow, hmore, bind, Except.bind, pure, Except.pure]⟩
    · exact ⟨false, hadmits, by simp [hrow, bind, Except.bind, pure, Except.pure]⟩

/-- A streak that no partner ends. -/
theorem streak_of_admitted (h : ∀ r ∈ rest, plan.admits left r = .ok true) :
    plan.streak left rest = rest.mapM (plan.output left) := by
  induction rest with
  | nil => rfl
  | cons r rest ih =>
    rw [streak, h r (by simp), List.mapM_cons, ih fun q hq => h q (by simp [hq])]
    rfl

/-- A streak that its first partner ends. -/
theorem streak_of_refused (h : plan.admits left right = .ok false) :
    plan.streak left (right :: rest) = (plan.padding left).map fun row => [row] := by
  rw [streak, h]
  cases plan.padding left <;> simp [bind, Except.bind, Except.map, pure, Except.pure]

theorem streak_ne_nil (h : plan.streak left (right :: rest) = .ok out) : out ≠ [] := by
  rcases streak_cons_eq_ok.mp h with ⟨_, _, _, _, _, rfl⟩ | ⟨_, _, _, rfl⟩ <;> simp

theorem answer_of_no_partner (h : plan.partners rights left = []) :
    plan.answer rights left = (plan.padding left).map fun row => [row] := by
  unfold answer
  rw [h]
  cases plan.padding left <;> rfl

theorem answer_of_partners (h : plan.partners rights left ≠ []) :
    plan.answer rights left = plan.streak left (plan.partners rights left) := by
  unfold answer
  split
  · contradiction
  · simp_all

theorem exists_streak (hadmits : ∀ r ∈ rest, ∃ b, plan.admits left r = .ok b)
    (houtput : ∀ r ∈ rest, ∃ row, plan.output left r = .ok row)
    (hpadding : ∃ row, plan.padding left = .ok row) : ∃ out, plan.streak left rest = .ok out := by
  induction rest with
  | nil => exact ⟨[], rfl⟩
  | cons r rest ih =>
    obtain ⟨b, hb⟩ := hadmits r (by simp)
    cases b with
    | true =>
      obtain ⟨row, hrow⟩ := houtput r (by simp)
      obtain ⟨more, hmore⟩ := ih (fun q hq => hadmits q (by simp [hq]))
        fun q hq => houtput q (by simp [hq])
      exact ⟨row :: more, streak_cons_eq_ok.mpr (.inl ⟨row, more, hb, hrow, hmore, rfl⟩)⟩
    | false =>
      obtain ⟨row, hrow⟩ := hpadding
      exact ⟨[row], streak_cons_eq_ok.mpr (.inr ⟨row, hb, hrow, rfl⟩)⟩

/-- A left row is answered where nothing fails on its pairs. -/
theorem exists_answer (hadmits : ∀ r ∈ rights, ∃ b, plan.admits left r = .ok b)
    (houtput : ∀ r ∈ rights, ∃ row, plan.output left r = .ok row)
    (hpadding : ∃ row, plan.padding left = .ok row) : ∃ out, plan.answer rights left = .ok out := by
  by_cases hnone : plan.partners rights left = []
  · obtain ⟨row, hrow⟩ := hpadding
    exact ⟨[row], by rw [answer_of_no_partner hnone, hrow]; rfl⟩
  · rw [answer_of_partners hnone]
    have hmem {r : Row} (hr : r ∈ plan.partners rights left) : r ∈ rights :=
      (List.mem_filter.mp hr).1
    exact exists_streak (fun r hr => hadmits r (hmem hr)) (fun r hr => houtput r (hmem hr)) hpadding

/-- No left row is without output. -/
theorem answer_ne_nil (h : plan.answer rights left = .ok out) : out ≠ [] := by
  by_cases hnone : plan.partners rights left = []
  · rw [answer_of_no_partner hnone, map_eq_ok] at h
    obtain ⟨row, -, rfl⟩ := h
    simp
  · rw [answer_of_partners hnone] at h
    obtain ⟨right, rest, hcons⟩ := List.exists_cons_of_ne_nil hnone
    rw [hcons] at h
    exact streak_ne_nil h

theorem rows_nil_eq_ok : plan.rows rights [] = .ok out ↔ out = [] := by
  simp [rows, pure, Except.pure, Except.map, eq_comm]

theorem rows_cons_eq_ok : plan.rows rights (left :: lefts) = .ok out ↔
    ∃ first more, plan.answer rights left = .ok first ∧ plan.rows rights lefts = .ok more ∧
      out = first ++ more := by
  simp only [rows, map_eq_ok, mapM_cons_eq_ok]
  constructor
  · rintro ⟨answers, ⟨first, others, hfirst, hothers, rfl⟩, rfl⟩
    exact ⟨first, others.flatten, hfirst, ⟨others, hothers, rfl⟩, List.flatten_cons⟩
  · rintro ⟨first, more, hfirst, ⟨others, hothers, rfl⟩, rfl⟩
    exact ⟨first :: others, ⟨first, others, hfirst, hothers, rfl⟩, List.flatten_cons⟩

/-- The rows of a streak are joined ones, but for a padded one at its end. -/
theorem mem_streak {row : Row} (h : plan.streak left rest = .ok out) (hrow : row ∈ out) :
    (∃ r ∈ rest, plan.output left r = .ok row) ∨ plan.padding left = .ok row := by
  induction rest generalizing out with
  | nil =>
    obtain rfl := Except.ok.inj h
    simp at hrow
  | cons r rest ih =>
    rcases streak_cons_eq_ok.mp h with
      ⟨first, more, -, hfirst, hmore, rfl⟩ | ⟨first, -, hfirst, rfl⟩
    · rcases List.mem_cons.mp hrow with rfl | hrow
      · exact .inl ⟨r, by simp, hfirst⟩
      · rcases ih hmore hrow with ⟨q, hq, hout⟩ | hpadding
        · exact .inl ⟨q, by simp [hq], hout⟩
        · exact .inr hpadding
    · obtain rfl := List.mem_singleton.mp hrow
      exact .inr hfirst

/-- Every row of a join is the output row of a pair or a padded row. -/
theorem mem_answer {row : Row} (h : plan.answer rights left = .ok out) (hrow : row ∈ out) :
    (∃ r ∈ rights, plan.output left r = .ok row) ∨ plan.padding left = .ok row := by
  by_cases hnone : plan.partners rights left = []
  · rw [answer_of_no_partner hnone, map_eq_ok] at h
    obtain ⟨padded, hpadded, rfl⟩ := h
    obtain rfl := List.mem_singleton.mp hrow
    exact .inr hpadded
  · rw [answer_of_partners hnone] at h
    rcases mem_streak h hrow with ⟨r, hr, hout⟩ | hpadding
    · exact .inl ⟨r, (List.mem_filter.mp hr).1, hout⟩
    · exact .inr hpadding

/-- Every output row has a left row, and a right one unless it is padded. -/
theorem mem_rows {row : Row} (h : plan.rows rights lefts = .ok out) (hrow : row ∈ out) :
    ∃ l ∈ lefts, (∃ r ∈ rights, plan.output l r = .ok row) ∨ plan.padding l = .ok row := by
  obtain ⟨answers, hanswers, rfl⟩ := map_eq_ok.mp h
  obtain ⟨answer, hanswer, hrow⟩ := List.mem_flatten.mp hrow
  obtain ⟨l, hl, hl'⟩ := mapM_mem hanswers hanswer
  exact ⟨l, hl, mem_answer hl' hrow⟩

end RowEngine.JoinPlan
