import RowEngine.Traced

/-!
# Outcomes that may fail

What the success of a computation says of its parts: of a sequence of two, of a list of results, of
a filter whose test may fail, and of a computation with a trace.
-/

namespace RowEngine

variable {ε ω α β : Type}

theorem bind_eq_ok {x : Except ε α} {f : α → Except ε β} {b : β} :
    (x >>= f) = .ok b ↔ ∃ a, x = .ok a ∧ f a = .ok b := by
  cases x <;> simp [bind, Except.bind]

@[simp] theorem throw_ne_ok {e : ε} {b : β} : (throw e : Except ε β) ≠ .ok b := by
  simp [throw, throwThe, MonadExceptOf.throw]

@[simp] theorem throw_bind_ne_ok {e : ε} {f : α → Except ε β} {b : β} :
    (throw e >>= f) ≠ .ok b := by
  simp [throw, throwThe, MonadExceptOf.throw, bind, Except.bind]

theorem map_eq_ok {x : Except ε α} {f : α → β} {b : β} :
    x.map f = .ok b ↔ ∃ a, x = .ok a ∧ f a = b := by
  cases x <;> simp [Except.map]

theorem mapM_nil_eq_ok {f : α → Except ε β} {bs : List β} : [].mapM f = .ok bs ↔ bs = [] := by
  simp [pure, Except.pure, eq_comm]

theorem mapM_cons_eq_ok {f : α → Except ε β} {a : α} {as : List α} {bs : List β} :
    (a :: as).mapM f = .ok bs ↔ ∃ b rest, f a = .ok b ∧ as.mapM f = .ok rest ∧ bs = b :: rest := by
  simp only [List.mapM_cons, bind_eq_ok, pure, Except.pure, Except.ok.injEq]
  constructor
  · rintro ⟨b, hb, rest, hrest, rfl⟩
    exact ⟨b, rest, hb, hrest, rfl⟩
  · rintro ⟨b, rest, hb, hrest, rfl⟩
    exact ⟨b, hb, rest, hrest, rfl⟩

/-- Every result comes of some item. -/
theorem mapM_mem {f : α → Except ε β} {as : List α} {bs : List β} (h : as.mapM f = .ok bs) {b : β}
    (hb : b ∈ bs) : ∃ a ∈ as, f a = .ok b := by
  induction as generalizing bs with
  | nil =>
    rw [mapM_nil_eq_ok] at h
    simp [h] at hb
  | cons a as ih =>
    obtain ⟨c, rest, hc, hrest, rfl⟩ := mapM_cons_eq_ok.mp h
    rcases List.mem_cons.mp hb with rfl | hb
    · exact ⟨a, by simp, hc⟩
    · obtain ⟨a', ha', he⟩ := ih hrest hb
      exact ⟨a', by simp [ha'], he⟩

/-- Results stand where their sources stood. -/
theorem getElem?_of_mapM {f : α → Except ε β} {as : List α} {bs : List β}
    (h : as.mapM f = .ok bs) {i : Nat} {a : α} (ha : as[i]? = some a) :
    ∃ b, bs[i]? = some b ∧ f a = .ok b := by
  induction as generalizing bs i with
  | nil => simp at ha
  | cons a' as ih =>
    obtain ⟨b, rest, hb, hrest, rfl⟩ := mapM_cons_eq_ok.mp h
    cases i with
    | zero =>
      obtain rfl := Option.some.inj ha
      exact ⟨b, rfl, hb⟩
    | succ i => exact ih hrest ha

theorem length_mapM {f : α → Except ε β} {as : List α} {bs : List β} (h : as.mapM f = .ok bs) :
    bs.length = as.length := by
  induction as generalizing bs with
  | nil =>
    rw [mapM_nil_eq_ok.mp h]
    rfl
  | cons a as ih =>
    obtain ⟨b, rest, -, hrest, rfl⟩ := mapM_cons_eq_ok.mp h
    rw [List.length_cons, List.length_cons, ih hrest]

theorem mapM_congr {f g : α → Except ε β} {as : List α} (h : ∀ a ∈ as, f a = g a) :
    as.mapM f = as.mapM g := by
  induction as with
  | nil => rfl
  | cons a as ih =>
    rw [List.mapM_cons, List.mapM_cons, h a (by simp), ih fun b hb => h b (by simp [hb])]

/-- Results that are all there make up a list of results. -/
theorem exists_mapM {f : α → Except ε β} {as : List α} (h : ∀ a ∈ as, ∃ b, f a = .ok b) :
    ∃ bs, as.mapM f = .ok bs := by
  induction as with
  | nil => exact ⟨[], rfl⟩
  | cons a as ih =>
    obtain ⟨b, hb⟩ := h a (by simp)
    obtain ⟨bs, hbs⟩ := ih fun c hc => h c (by simp [hc])
    exact ⟨b :: bs, mapM_cons_eq_ok.mpr ⟨b, bs, hb, hbs, rfl⟩⟩

/-- A check of all items succeeds just if each of them passes. -/
theorem forM_eq_ok {f : α → Except ε Unit} {as : List α} {u : Unit} :
    as.forM f = .ok u ↔ ∀ a ∈ as, f a = .ok () := by
  induction as with
  | nil => simp [List.forM, pure, Except.pure]
  | cons a as ih =>
    rw [List.forM, bind_eq_ok, List.forall_mem_cons]
    constructor
    · rintro ⟨⟨⟩, ha, has⟩
      exact ⟨ha, ih.mp has⟩
    · rintro ⟨ha, has⟩
      exact ⟨(), ha, ih.mpr has⟩

theorem filterAuxM_eq (p : α → Except ε Bool) (as acc : List α) :
    as.filterAuxM p acc = (as.filterAuxM p []).map (· ++ acc) := by
  induction as generalizing acc with
  | nil => simp [List.filterAuxM, pure, Except.pure, Except.map]
  | cons a as ih =>
    simp only [List.filterAuxM]
    cases p a with
    | error e => rfl
    | ok b =>
      simp only [bind, Except.bind]
      rw [ih (bif b then a :: acc else acc), ih (bif b then [a] else [])]
      cases as.filterAuxM p [] <;> cases b <;> simp [Except.map]

theorem filterM_nil_eq_ok {p : α → Except ε Bool} {bs : List α} :
    [].filterM p = .ok bs ↔ bs = [] := by
  simp [List.filterM, List.filterAuxM, bind, Except.bind, pure, Except.pure, eq_comm]

theorem filterM_cons_eq_ok {p : α → Except ε Bool} {a : α} {as bs : List α} :
    (a :: as).filterM p = .ok bs ↔
      ∃ b rest, p a = .ok b ∧ as.filterM p = .ok rest ∧ bs = if b then a :: rest else rest := by
  simp only [List.filterM, List.filterAuxM]
  cases p a with
  | error e => simp [bind, Except.bind]
  | ok b =>
    simp only [bind, Except.bind]
    rw [filterAuxM_eq]
    cases as.filterAuxM p [] <;> cases b <;> simp [Except.map, pure, Except.pure, eq_comm]

theorem filterM_sublist {p : α → Except ε Bool} {as bs : List α} (h : as.filterM p = .ok bs) :
    bs.Sublist as := by
  induction as generalizing bs with
  | nil =>
    obtain rfl := filterM_nil_eq_ok.mp h
    exact .slnil
  | cons a as ih =>
    obtain ⟨b, rest, -, hrest, rfl⟩ := filterM_cons_eq_ok.mp h
    cases b with
    | true => exact (ih hrest).cons_cons a
    | false => exact (ih hrest).cons a

/-- A filter whose test never fails is the plain filter. -/
theorem filterM_eq_filter {p : α → Except ε Bool} {q : α → Bool} {as : List α}
    (h : ∀ a ∈ as, p a = .ok (q a)) : as.filterM p = .ok (as.filter q) := by
  induction as with
  | nil => exact filterM_nil_eq_ok.mpr rfl
  | cons a as ih =>
    have hrest := ih fun c hc => h c (by simp [hc])
    exact filterM_cons_eq_ok.mpr ⟨q a, _, h a (by simp), hrest, by simp [List.filter_cons]⟩

/-- Whether a test was passed; one that failed was not. -/
def passed : Except ε Bool → Bool
  | .ok b => b
  | .error _ => false

theorem eq_ok_passed {x : Except ε Bool} {b : Bool} (h : x = .ok b) : x = .ok (passed x) := by
  rw [h]
  rfl

@[simp] theorem Traced.result_bind (x : Traced ε ω α) (f : α → Traced ε ω β) :
    (x.bind f).result = x.result >>= fun a => (f a).result := by
  rcases x with ⟨_ | _, t⟩ <;> rfl

@[simp] theorem Traced.result_ok (a : α) : (Traced.ok a : Traced ε ω α).result = .ok a := rfl

end RowEngine
