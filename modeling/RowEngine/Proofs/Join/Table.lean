import RowEngine.Join.Table
import RowEngine.Proofs.Stream

/-!
# What a join table holds

Looking up a key in a table that was built from some rows finds exactly the rows with this key, in
their order: the table is the rows split by key, without those that have a null in it.
-/

namespace RowEngine

/-- The value of a row at a position, with null for a column that is not there. -/
def Row.at (row : Row) (i : Nat) : Value := (row[i]?).getD .null

def Row.pick (row : Row) (ids : List Nat) : List Value := ids.map row.at

theorem Row.getElem?_eq_at {row : Row} {i : Nat} (h : i < row.length) :
    row[i]? = some (row.at i) := by
  simp [Row.at, h]

theorem keyOf_eq_pick {row : Row} {ids : List Nat} (h : ∀ i ∈ ids, i < row.length) :
    keyOf row ids = .ok (row.pick ids) := by
  induction ids with
  | nil => rfl
  | cons i rest ih =>
    have hi : row[i]? = some (row.at i) := Row.getElem?_eq_at (h i (by simp))
    have hrest := ih fun j hj => h j (by simp [hj])
    simp only [keyOf] at hrest ⊢
    rw [List.mapM_cons, hi, hrest]
    simp [Row.pick, bind, Except.bind, pure, Except.pure]

def sameKey : List Value → List Value → Bool
  | [], [] => true
  | a :: as, b :: bs => a.same b && sameKey as bs
  | _, _ => false

/-- Canonical forms stand for all keys that are the same. -/
theorem sameKey_iff (a b : List Value) : sameKey a b = true ↔ canonKey a = canonKey b := by
  induction a generalizing b with
  | nil => cases b <;> simp [sameKey, canonKey]
  | cons x xs ih =>
    cases b with
    | nil => simp [sameKey, canonKey]
    | cons y ys => simpa [sameKey, canonKey, Value.same] using fun _ => ih ys

def rowsUnder (key : List Value) : List Bucket → List Row
  | [] => []
  | b :: rest => if b.key = key then b.rows else rowsUnder key rest

/-- A row goes to the end of the bucket of its own key, and the other buckets stay as they are. -/
theorem rowsUnder_insertRow (key other : List Value) (row : Row) (bs : List Bucket) :
    rowsUnder other (insertRow key row bs) =
      rowsUnder other bs ++ if key = other then [row] else [] := by
  induction bs with
  | nil => simp [insertRow, rowsUnder]
  | cons b rest ih =>
    by_cases hkey : b.key = key
    · subst hkey
      by_cases hother : b.key = other <;> simp [insertRow, rowsUnder, hother]
    · by_cases hother : b.key = other
      · subst hother
        simp [insertRow, rowsUnder, hkey, Ne.symm hkey]
      · simp [insertRow, rowsUnder, hkey, hother, ih]

theorem insertRow_filled (key : List Value) (row : Row) (bs : List Bucket)
    (h : ∀ b ∈ bs, b.rows ≠ []) : ∀ b ∈ insertRow key row bs, b.rows ≠ [] := by
  induction bs with
  | nil => simp [insertRow]
  | cons b rest ih =>
    have hb := h b (by simp)
    have hrest := ih fun c hc => h c (by simp [hc])
    unfold insertRow
    split
    · intro c hc
      rcases List.mem_cons.mp hc with rfl | hc
      · simp
      · exact h c (by simp [hc])
    · intro c hc
      rcases List.mem_cons.mp hc with rfl | hc
      · exact hb
      · exact hrest c hc

theorem rowsUnder_of_findIdx?_none {key : List Value} {bs : List Bucket}
    (h : bs.findIdx? (·.key = key) = none) : rowsUnder key bs = [] := by
  induction bs with
  | nil => rfl
  | cons b rest ih =>
    by_cases hb : b.key = key
    · simp [List.findIdx?_cons, hb] at h
    · simp only [List.findIdx?_cons, hb, decide_false, Bool.false_eq_true, ↓reduceIte,
        Option.map_eq_none_iff] at h
      simpa [rowsUnder, hb] using ih h

theorem rowsUnder_of_findIdx?_some {key : List Value} {bs : List Bucket} {slot : Nat}
    (h : bs.findIdx? (·.key = key) = some slot) :
    ∃ b, bs[slot]? = some b ∧ rowsUnder key bs = b.rows := by
  induction bs generalizing slot with
  | nil => simp at h
  | cons b rest ih =>
    by_cases hb : b.key = key
    · obtain rfl : 0 = slot := by simpa [List.findIdx?_cons, hb] using h
      exact ⟨b, rfl, by simp [rowsUnder, hb]⟩
    · simp only [List.findIdx?_cons, hb, decide_false, Bool.false_eq_true, ↓reduceIte,
        Option.map_eq_some_iff] at h
      obtain ⟨n, hn, rfl⟩ := h
      obtain ⟨c, hc, hrows⟩ := ih hn
      exact ⟨c, by simpa using hc, by simpa [rowsUnder, hb] using hrows⟩

/-- A row goes under a key if its key columns hold no null and are the same as the key. -/
def belongs (ids : List Nat) (key : List Value) (row : Row) : Bool :=
  !hasNull (row.pick ids) && sameKey key (row.pick ids)

/-- A table holds some rows, split by the values of their key columns. -/
structure JoinTable.Splits (t : JoinTable) (ids : List Nat) (rows : List Row) : Prop where
  rows : ∀ key, rowsUnder (canonKey key) t.buckets = rows.filter (belongs ids key)
  filled : ∀ b ∈ t.buckets, b.rows ≠ []

theorem JoinTable.Splits.empty (ids : List Nat) : JoinTable.empty.Splits ids [] :=
  ⟨fun _ => rfl, by simp [JoinTable.empty]⟩

/-- One more row: it goes to the end of its bucket, or nowhere if there is a null in its key. -/
theorem Buildup.add_splits {ids : List Nat} {b : Buildup} {rows : List Row} {row : Row}
    (hb : b.table.Splits ids rows) (hrow : ∀ i ∈ ids, i < row.length) :
    ∃ b', b.add ids row = .ok b' ∧ b'.table.Splits ids (rows ++ [row]) := by
  by_cases hnull : hasNull (row.pick ids) = true
  · refine ⟨{ b with skipped := b.skipped + 1 }, by simp [add, keyOf_eq_pick hrow, hnull], ?_⟩
    refine ⟨fun key => ?_, hb.filled⟩
    simp [hb.rows key, belongs, hnull]
  · refine ⟨{ b with table := b.table.insert (row.pick ids) row },
      by simp [add, keyOf_eq_pick hrow, hnull], ?_⟩
    refine ⟨fun key => ?_, insertRow_filled _ row _ hb.filled⟩
    have hkey : canonKey (row.pick ids) = canonKey key ↔ sameKey key (row.pick ids) = true := by
      rw [sameKey_iff]
      exact eq_comm
    simp only [JoinTable.insert, rowsUnder_insertRow, hb.rows key, List.filter_append]
    by_cases hsame : sameKey key (row.pick ids) = true <;> simp [belongs, hnull, hkey, hsame]

/-- The induction is on the rows, one more of them being split off at a time. -/
theorem foldlM_add_splits {ids : List Nat} (rows : List Row) {b : Buildup} {before : List Row}
    (hb : b.table.Splits ids before) (hrows : ∀ row ∈ rows, ∀ i ∈ ids, i < row.length) :
    ∃ b', rows.foldlM (Buildup.add ids) b = .ok b' ∧ b'.table.Splits ids (before ++ rows) := by
  induction rows generalizing b before with
  | nil => exact ⟨b, rfl, by simpa using hb⟩
  | cons row rest ih =>
    obtain ⟨b₁, hadd, hb₁⟩ := Buildup.add_splits hb (hrows row (by simp))
    obtain ⟨b₂, hrest, hb₂⟩ := ih hb₁ fun r hr => hrows r (by simp [hr])
    refine ⟨b₂, ?_, by simpa using hb₂⟩
    rw [List.foldlM_cons, bind_eq_ok]
    exact ⟨b₁, hadd, hrest⟩

/-- Draining a stream of rows that have all key columns builds a table of these rows. -/
theorem BuildSide.load_splits (l : BuildSide) {input : Operator}
    {At : input.State → List Row → Prop} {Ended : input.State → Prop}
    (hinput : input.Streams At Ended) {s : input.State} {rows : List Row} (hs : At s rows)
    (hrows : ∀ row ∈ rows, ∀ i ∈ l.keyColumns, i < row.length) :
    (l.load input false s).outcome = .ok () ∧
      ∃ t, (l.load input false s).state.1.table = some t ∧ t.Splits l.keyColumns rows := by
  obtain ⟨built, hfold, hsplits⟩ :=
    foldlM_add_splits (b := .empty) rows (JoinTable.Splits.empty l.keyColumns) hrows
  obtain ⟨houtcome, -⟩ := hinput.fold hs hfold
  simp only [load, houtcome, true_and]
  exact ⟨built.table, rfl, by simpa using hsplits⟩

/-- Looking up a key finds nothing where no row has it, and else a slot that holds the rows that
have it. -/
theorem JoinTable.Splits.find? {t : JoinTable} {ids : List Nat} {rows : List Row}
    (ht : t.Splits ids rows) (key : List Value) :
    match t.find? key with
    | none => rows.filter (belongs ids key) = []
    | some slot => rows.filter (belongs ids key) ≠ [] ∧
        t.bucket slot = rows.filter (belongs ids key) := by
  rw [← ht.rows key]
  cases hfind : t.find? key with
  | none => exact rowsUnder_of_findIdx?_none hfind
  | some slot =>
    obtain ⟨b, hb, hrows⟩ := rowsUnder_of_findIdx?_some hfind
    rw [hrows]
    exact ⟨ht.filled b (List.mem_of_getElem? hb), by simp [JoinTable.bucket, hb]⟩

end RowEngine
