import RowEngine.Proofs.Value.Preorder

/-!
# Rows in lexicographic order

Each key orders the rows by what they hold in its column, and the first key that tells two rows
apart decides. So the order of rows is transitive as far as the order of values is one in the column
of each key.
-/

namespace RowEngine

namespace RowView

/-- What a row holds in a column. A column that it does not have counts as null. -/
def cell (row : RowView) (i : Nat) : Value := (row.value i).getD .null

def cells (S : Set RowView) (i : Nat) : Set Value := {v | ∃ row ∈ S, row.cell i = v}

theorem cell_mem_cells {S : Set RowView} {row : RowView} (h : row ∈ S) (i : Nat) :
    row.cell i ∈ cells S i :=
  ⟨row, h, rfl⟩

end RowView

namespace SortKey

variable {key : SortKey} {keys before after : List SortKey} {a b c : RowView} {v w x : Value}

theorem compare_eq_compareValues (key : SortKey) (a b : RowView) :
    key.compare a b = key.compareValues (a.cell key.column) (b.cell key.column) :=
  rfl

/-- Null ties with null only. -/
theorem compareValues_eq_iff :
    key.compareValues v w = .eq ↔
      v.isNull = true ∧ w.isNull = true ∨
      v.isNull = false ∧ w.isNull = false ∧ v.compare w = .eq := by
  unfold compareValues
  cases v.isNull <;> cases w.isNull <;> dsimp only
  · cases key.ascending <;> simp
  · cases key.nullsFirst <;> simp
  · cases key.nullsFirst <;> simp
  · simp

/-- Where nulls stand does not depend on the direction. -/
theorem compareValues_lt_iff :
    key.compareValues v w = .lt ↔
      v.isNull = true ∧ w.isNull = false ∧ key.nullsFirst = true ∨
      v.isNull = false ∧ w.isNull = true ∧ key.nullsFirst = false ∨
      v.isNull = false ∧ w.isNull = false ∧
        if key.ascending then v.compare w = .lt else w.compare v = .lt := by
  unfold compareValues
  cases v.isNull <;> cases w.isNull <;> dsimp only
  · cases key.ascending <;> simp [Value.compare_swap]
  · cases key.nullsFirst <;> simp
  · cases key.nullsFirst <;> simp
  · simp

/-- Among nulls and values that are none, either all nulls stand before or all behind. -/
theorem compareValues_isLE_trans {S : Set Value} (hS : Value.TiesPass S) (hv : v ∈ S) (hw : w ∈ S)
    (hx : x ∈ S) (h₁ : (key.compareValues v w).isLE) (h₂ : (key.compareValues w x).isLE) :
    (key.compareValues v x).isLE := by
  unfold compareValues at h₁ h₂ ⊢
  cases hvn : v.isNull <;> cases hwn : w.isNull <;> cases hxn : x.isNull <;>
    simp only [hvn, hwn, hxn] at h₁ h₂ ⊢
  case false.false.false =>
    cases hascending : key.ascending
    · simp only [hascending, Bool.false_eq_true, if_false, Value.compare_swap] at h₁ h₂ ⊢
      exact Value.isLE_trans_of_tiesPass hS hx hw hv h₂ h₁
    · simp only [hascending, if_true] at h₁ h₂ ⊢
      exact Value.isLE_trans_of_tiesPass hS hv hw hx h₁ h₂
  case false.true.false | true.false.true =>
    cases hfirst : key.nullsFirst <;> simp [hfirst] at h₁ h₂
  all_goals assumption

theorem compareRows_cons (key : SortKey) (keys : List SortKey) (a b : RowView) :
    compareRows (key :: keys) a b = (key.compare a b).then (compareRows keys a b) :=
  rfl

theorem compareRows_append (keys others : List SortKey) (a b : RowView) :
    compareRows (keys ++ others) a b = (compareRows keys a b).then (compareRows others a b) := by
  induction keys with
  | nil => rfl
  | cons key keys ih =>
    rw [List.cons_append, compareRows_cons, compareRows_cons, ih, Ordering.then_assoc]

/-- Rows tie just if they tie in every key. -/
theorem compareRows_eq_iff :
    compareRows keys a b = .eq ↔ ∀ key ∈ keys, key.compare a b = .eq := by
  induction keys with
  | nil => simp [compareRows]
  | cons key keys ih => rw [compareRows_cons, Ordering.then_eq_eq, ih, List.forall_mem_cons]

theorem compareRows_of_first (hbefore : ∀ k ∈ before, k.compare a b = .eq)
    (hkey : key.compare a b ≠ .eq) :
    compareRows (before ++ key :: after) a b = key.compare a b := by
  rw [compareRows_append, compareRows_eq_iff.mpr hbefore, compareRows_cons]
  cases h : key.compare a b <;> first | rfl | exact absurd h hkey

/-- A key sees nothing of a row but its own column. -/
theorem compare_congr {a' b' : RowView} (ha : a'.cell key.column = a.cell key.column)
    (hb : b'.cell key.column = b.cell key.column) : key.compare a' b' = key.compare a b := by
  rw [compare_eq_compareValues, compare_eq_compareValues, ha, hb]

/-- Only what the rows hold in the key columns counts. -/
theorem compareRows_congr {a' b' : RowView}
    (ha : ∀ key ∈ keys, a'.cell key.column = a.cell key.column)
    (hb : ∀ key ∈ keys, b'.cell key.column = b.cell key.column) :
    compareRows keys a' b' = compareRows keys a b := by
  induction keys with
  | nil => rfl
  | cons key keys ih =>
    rw [List.forall_mem_cons] at ha hb
    rw [compareRows_cons, compareRows_cons, compare_congr ha.1 hb.1, ih ha.2 hb.2]

/-- Once some keys have told the rows apart, neither the keys behind them nor what the rows hold in
the columns of these matters. -/
theorem compareRows_of_prefix (after others : List SortKey) {a' b' : RowView}
    (happart : compareRows keys a b ≠ .eq)
    (ha : ∀ key ∈ keys, a'.cell key.column = a.cell key.column)
    (hb : ∀ key ∈ keys, b'.cell key.column = b.cell key.column) :
    compareRows (keys ++ others) a' b' = compareRows (keys ++ after) a b := by
  rw [compareRows_append, compareRows_append, compareRows_congr ha hb]
  cases h : compareRows keys a b <;> first | rfl | exact absurd h happart

/-- Rows of which every key finds values in its column whose ties pass on. -/
def TiesPass (keys : List SortKey) (S : Set RowView) : Prop :=
  ∀ key ∈ keys, Value.TiesPass (RowView.cells S key.column)

theorem transCmp_compare {S : Set RowView}
    (hS : Value.TiesPass (RowView.cells S key.column)) :
    Std.TransCmp fun a b : S => key.compare a.1 b.1 where
  eq_swap {a b} := (key.compare_swap b.1 a.1).symm
  isLE_trans {a b c} := compareValues_isLE_trans hS (RowView.cell_mem_cells a.2 _)
    (RowView.cell_mem_cells b.2 _) (RowView.cell_mem_cells c.2 _)

/-- The first key that is not tied decides, so transitivity goes from key to key. -/
theorem transCmp_compareRows {S : Set RowView} (hS : TiesPass keys S) :
    Std.TransCmp fun a b : S => compareRows keys a.1 b.1 := by
  induction keys with
  | nil => exact { eq_swap := rfl, isLE_trans := fun _ _ => rfl }
  | cons key keys ih =>
    obtain ⟨hkey, hkeys⟩ := List.forall_mem_cons.mp hS
    have := transCmp_compare hkey
    have := ih hkeys
    exact inferInstanceAs (Std.TransCmp (compareLex (fun a b : S => key.compare a.1 b.1)
      fun a b : S => compareRows keys a.1 b.1))

theorem compareRows_isLE_trans {S : Set RowView} (hS : TiesPass keys S) (ha : a ∈ S) (hb : b ∈ S)
    (hc : c ∈ S) (h₁ : (compareRows keys a b).isLE) (h₂ : (compareRows keys b c).isLE) :
    (compareRows keys a c).isLE :=
  (transCmp_compareRows hS).isLE_trans (a := ⟨a, ha⟩) (b := ⟨b, hb⟩) (c := ⟨c, hc⟩) h₁ h₂

/-- Comparing rows is reflexive and turns around with its sides, and it gives the verdict of the
first key that tells the rows apart, whatever comes behind. A key puts nulls at the end that it says
in both directions and orders what is not null as values are, or the other way around. Where ties of
the values in each column pass on, the order is transitive. -/
theorem compareRows_lexicographic :
    (∀ keys a, compareRows keys a a = .eq) ∧
    (∀ keys a b, compareRows keys b a = (compareRows keys a b).swap) ∧
    (∀ keys a b, compareRows keys a b = .eq ↔ ∀ key ∈ keys, key.compare a b = .eq) ∧
    (∀ before key after a b, (∀ k ∈ before, k.compare a b = .eq) → key.compare a b ≠ .eq →
      compareRows (before ++ key :: after) a b = key.compare a b ∧
      ∀ others a' b', (∀ k ∈ before ++ [key], a'.cell k.column = a.cell k.column) →
        (∀ k ∈ before ++ [key], b'.cell k.column = b.cell k.column) →
        compareRows (before ++ key :: others) a' b' = key.compare a b) ∧
    (∀ (key : SortKey) a b, key.compare a b = .eq ↔
      (a.cell key.column).isNull = true ∧ (b.cell key.column).isNull = true ∨
      (a.cell key.column).isNull = false ∧ (b.cell key.column).isNull = false ∧
        (a.cell key.column).compare (b.cell key.column) = .eq) ∧
    (∀ (key : SortKey) a b, key.compare a b = .lt ↔
      (a.cell key.column).isNull = true ∧ (b.cell key.column).isNull = false ∧
        key.nullsFirst = true ∨
      (a.cell key.column).isNull = false ∧ (b.cell key.column).isNull = true ∧
        key.nullsFirst = false ∨
      (a.cell key.column).isNull = false ∧ (b.cell key.column).isNull = false ∧
        if key.ascending then (a.cell key.column).compare (b.cell key.column) = .lt
        else (b.cell key.column).compare (a.cell key.column) = .lt) ∧
    (∀ keys (S : Set RowView), TiesPass keys S → ∀ a ∈ S, ∀ b ∈ S, ∀ c ∈ S,
      (compareRows keys a b).isLE → (compareRows keys b c).isLE → (compareRows keys a c).isLE) := by
  refine ⟨compareRows_self, fun keys a b => (compareRows_swap keys a b).symm,
    fun keys a b => compareRows_eq_iff, ?_, fun key a b => compareValues_eq_iff,
    fun key a b => compareValues_lt_iff, fun keys S hS a ha b hb c hc =>
      compareRows_isLE_trans hS ha hb hc⟩
  intro before key after a b hbefore hkey
  have hfirst (after : List SortKey) :
      compareRows (before ++ key :: after) a b = key.compare a b :=
    compareRows_of_first hbefore hkey
  refine ⟨hfirst after, ?_⟩
  intro others a' b' ha hb
  have happart : compareRows (before ++ [key]) a b ≠ .eq := by
    rw [hfirst]
    exact hkey
  have hsame := compareRows_of_prefix [] others happart ha hb
  rw [List.append_assoc, List.append_nil, hfirst] at hsame
  exact hsame

/-- By the first column and then downwards by the second, which the last row does not have. -/
theorem compareRows_lexicographic_ragged :
    let keys : List SortKey := [⟨0, true, false⟩, ⟨1, false, true⟩]
    let a := Row.view [.integer 9007199254740992, .null]
    let b := Row.view [.float ⟨0x4340000000000000⟩, .text "x"]
    let c := Row.view [.null]
    TiesPass keys {a, b, c} ∧
    (compareRows keys a b).isLE ∧ (compareRows keys b c).isLE ∧ (compareRows keys a c).isLE ∧
    (⟨0, true, false⟩ : SortKey).compare a b = .eq ∧
    (⟨1, false, true⟩ : SortKey).compare a b ≠ .eq ∧ compareRows keys a b = .lt := by
  intro keys a b c
  obtain ⟨-, -, -, hfirst, -, -, htrans⟩ := compareRows_lexicographic
  have hS : TiesPass keys {a, b, c} := by
    intro key hkey
    right
    rintro n ⟨row, hrow, hcell⟩
    rcases List.mem_pair.mp hkey with rfl | rfl <;> rcases hrow with rfl | rfl | rfl <;> cases hcell
    decide
  have hab : (compareRows keys a b).isLE := by decide +kernel
  have hbc : (compareRows keys b c).isLE := by decide +kernel
  have htie : (⟨0, true, false⟩ : SortKey).compare a b = .eq := by decide +kernel
  have hapart : (⟨1, false, true⟩ : SortKey).compare a b ≠ .eq := by decide +kernel
  have hverdict := (hfirst [⟨0, true, false⟩] ⟨1, false, true⟩ [] a b (by simpa using htie)
    hapart).1
  have hac := htrans keys _ hS a (.inl rfl) b (.inr (.inl rfl)) c (.inr (.inr rfl)) hab hbc
  exact ⟨hS, hab, hbc, hac, htie, hapart, hverdict.trans (by decide +kernel)⟩

end SortKey

end RowEngine
