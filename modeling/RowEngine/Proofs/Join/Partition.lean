import Mathlib.Data.List.Induction
import Mathlib.Data.List.Nodup
import RowEngine.Proofs.Join.Hashing
import RowEngine.Proofs.Operator.Streaming

/-!
# Join tables as partitions

The buckets of a table are numbered by the first occurrence of their key among the rows that the
table was built from, and each holds the rows with its key in their order. Every row is in one
bucket, or it has a null in its key and is counted as left out.
-/

namespace RowEngine

def Row.Covers (row : Row) (ids : List Nat) : Prop := ∀ i ∈ ids, i < row.length

instance (row : Row) (ids : List Nat) : Decidable (row.Covers ids) := by
  unfold Row.Covers
  infer_instance

/-- A key can be read just if the row has all key columns. -/
theorem keyOf_eq_ok {row : Row} {ids : List Nat} {key : List Value} :
    keyOf row ids = .ok key ↔ row.Covers ids ∧ key = row.pick ids := by
  constructor
  · intro h
    have hcovers : row.Covers ids := by
      intro i hi
      obtain ⟨n, hn⟩ := List.getElem?_of_mem hi
      obtain ⟨v, -, hv⟩ := getElem?_of_mapM h hn
      by_contra hout
      simp [List.getElem?_eq_none (Nat.le_of_not_lt hout)] at hv
    rw [keyOf_eq_pick hcovers] at h
    exact ⟨hcovers, (Except.ok.inj h).symm⟩
  · rintro ⟨hcovers, rfl⟩
    exact keyOf_eq_pick hcovers

namespace Buildup

variable {ids : List Nat} {b b' : Buildup} {row : Row}

/-- One more row, which is left out if there is a null in its key. -/
def put (ids : List Nat) (b : Buildup) (row : Row) : Buildup :=
  if hasNull (row.pick ids) then { b with skipped := b.skipped + 1 }
  else { b with table := b.table.insert (row.pick ids) row }

theorem add_eq_ok : b.add ids row = .ok b' ↔ row.Covers ids ∧ b' = b.put ids row := by
  unfold add
  cases hkey : keyOf row ids with
  | error e =>
    have hnot : ¬ row.Covers ids := fun h => by simp [keyOf_eq_pick h] at hkey
    simp [hnot]
  | ok key =>
    obtain ⟨hcovers, rfl⟩ := keyOf_eq_ok.mp hkey
    rw [and_iff_right hcovers, Except.ok.injEq]
    exact eq_comm

/-- Rows can be entered just if all of them have the key columns. -/
theorem foldlM_add_eq_ok {rows : List Row} : rows.foldlM (add ids) b = .ok b' ↔
    (∀ row ∈ rows, row.Covers ids) ∧ b' = rows.foldl (put ids) b := by
  induction rows generalizing b with
  | nil => simp [pure, Except.pure, eq_comm]
  | cons row rows ih =>
    rw [List.foldlM_cons, bind_eq_ok, List.forall_mem_cons, List.foldl_cons]
    simp only [add_eq_ok, ih]
    constructor
    · rintro ⟨_, ⟨hrow, rfl⟩, hrows, hb⟩
      exact ⟨⟨hrow, hrows⟩, hb⟩
    · rintro ⟨⟨hrow, hrows⟩, hb⟩
      exact ⟨_, ⟨hrow, rfl⟩, hrows, hb⟩

def ofRows (ids : List Nat) (rows : List Row) : Buildup := rows.foldl (put ids) .empty

@[simp] theorem ofRows_nil (ids : List Nat) : ofRows ids [] = .empty := rfl

@[simp] theorem ofRows_concat (ids : List Nat) (rows : List Row) (row : Row) :
    ofRows ids (rows ++ [row]) = (ofRows ids rows).put ids row := List.foldl_concat _ _ _ _

/-- Every row goes into a bucket or is left out for a null in its key. -/
theorem counts_ofRows (ids : List Nat) (rows : List Row) :
    (ofRows ids rows).skipped = rows.countP (fun row => hasNull (row.pick ids)) ∧
      (ofRows ids rows).table.rowTotal + (ofRows ids rows).skipped = rows.length := by
  induction rows using List.reverseRecOn with
  | nil => exact ⟨rfl, rfl⟩
  | append_singleton rows row ih =>
    obtain ⟨hskipped, htotal⟩ := ih
    rw [ofRows_concat, List.countP_append, List.length_append]
    cases hnull : hasNull (row.pick ids) with
    | true => simp [put, hnull, hskipped, ← htotal]; omega
    | false => simp [put, hnull, hskipped, ← htotal]; omega

end Buildup

/-- An input can be drained, and all of its rows have some columns. -/
structure Operator.Delivers (input : Operator) (stopped : Bool) (s : input.State) (ids : List Nat)
    (rows : List Row) : Prop where
  drained : (input.collect stopped s).outcome = .ok rows
  covers : ∀ row ∈ rows, row.Covers ids

namespace BuildSide

variable {l : BuildSide} {input : Operator} {stopped : Bool} {s : input.State} {rows : List Row}

theorem fold_eq_ok_iff {built : Buildup} :
    (input.fold stopped (Buildup.add l.keyColumns) .empty s).outcome = .ok built ↔
      ∃ rows, input.Delivers stopped s l.keyColumns rows ∧
        built = .ofRows l.keyColumns rows := by
  simp only [Operator.fold_eq_ok, Buildup.foldlM_add_eq_ok]
  constructor
  · rintro ⟨rows, hrows, hcovers, hbuilt⟩
    exact ⟨rows, ⟨hrows, hcovers⟩, hbuilt⟩
  · rintro ⟨rows, ⟨hrows, hcovers⟩, hbuilt⟩
    exact ⟨rows, hrows, hcovers, hbuilt⟩

/-- Loading succeeds just if the input can be drained and all of its rows have the key columns. -/
theorem load_eq_ok : (l.load input stopped s).outcome = .ok () ↔
    ∃ rows, input.Delivers stopped s l.keyColumns rows := by
  have hfold : (l.load input stopped s).outcome = .ok () ↔
      ∃ built, (input.fold stopped (Buildup.add l.keyColumns) .empty s).outcome = .ok built := by
    unfold load
    dsimp only
    split <;> simp_all
  rw [hfold]
  constructor
  · rintro ⟨built, hbuilt⟩
    obtain ⟨rows, hrows, -⟩ := fold_eq_ok_iff.mp hbuilt
    exact ⟨rows, hrows⟩
  · rintro ⟨rows, hrows⟩
    exact ⟨_, fold_eq_ok_iff.mpr ⟨rows, hrows, rfl⟩⟩

/-- The table of the rows that were drained takes the place of the old one. -/
theorem state_load (h : input.Delivers stopped s l.keyColumns rows) :
    (l.load input stopped s).state.1 =
      { l with table := some (Buildup.ofRows l.keyColumns rows).table, loads := l.loads + 1 } := by
  simp only [load, fold_eq_ok_iff.mpr ⟨rows, h, rfl⟩]

theorem getLast?_events_load (h : input.Delivers stopped s l.keyColumns rows) :
    let built := Buildup.ofRows l.keyColumns rows
    (l.load input stopped s).events.getLast? =
      some (.log (.tableBuilt built.table.rowTotal built.table.keyCount built.skipped)) := by
  simp only [load, fold_eq_ok_iff.mpr ⟨rows, h, rfl⟩, List.getLast?_concat]

end BuildSide

namespace JoinTable

variable {t : JoinTable} {ids : List Nat} {rows : List Row} {key other : List Value} {slot : Nat}

/-- The keys of the slots, in the form that stands for all keys that are the same. -/
def keys (t : JoinTable) : List (List Value) := t.buckets.map Bucket.key

theorem length_keys (t : JoinTable) : t.keys.length = t.keyCount := List.length_map _

/-- A key that is there already makes no difference, and a new one comes last. -/
theorem keys_insertRow (key : List Value) (row : Row) (bs : List Bucket) :
    (insertRow key row bs).map Bucket.key =
      if key ∈ bs.map Bucket.key then bs.map Bucket.key else bs.map Bucket.key ++ [key] := by
  induction bs with
  | nil => rfl
  | cons b rest ih =>
    by_cases hb : b.key = key
    · simp [insertRow, hb]
    · have hne : key ≠ b.key := Ne.symm hb
      simp only [insertRow, hb, if_false, List.map_cons, ih, List.mem_cons, hne, false_or]
      split <;> rfl

theorem keys_insert (t : JoinTable) (key : List Value) (row : Row) :
    (t.insert key row).keys =
      if canonKey key ∈ t.keys then t.keys else t.keys ++ [canonKey key] :=
  keys_insertRow (canonKey key) row t.buckets

/-- The key columns of a row hold no null and are stood for by a key. -/
def carries (ids : List Nat) (key : List Value) (row : Row) : Bool :=
  !hasNull (row.pick ids) && decide (canonKey (row.pick ids) = key)

theorem belongs_eq_carries (ids : List Nat) (key : List Value) :
    belongs ids key = carries ids (canonKey key) := by
  funext row
  have hsame : sameKey key (row.pick ids) = decide (canonKey (row.pick ids) = canonKey key) := by
    rw [Bool.eq_iff_iff, sameKey_iff, decide_eq_true_iff]
    exact eq_comm
  rw [belongs, carries, hsame]

/-- The keys of a table are those of some rows, each at the place of its first row. -/
structure Lists (t : JoinTable) (ids : List Nat) (rows : List Row) : Prop where
  covers : ∀ key, key ∈ t.keys ↔ ∃ row ∈ rows, carries ids key row = true
  inOrder : t.keys.Pairwise fun key other =>
    rows.findIdx (carries ids key) < rows.findIdx (carries ids other)

theorem findIdx_concat_of_exists {p : Row → Bool} (row : Row) (h : ∃ r ∈ rows, p r = true) :
    (rows ++ [row]).findIdx p = rows.findIdx p := by
  rw [List.findIdx_append, if_pos (List.findIdx_lt_length.mpr h)]

/-- More rows do not move the first rows of the keys that are there. -/
theorem Lists.pairwise_concat (h : t.Lists ids rows) (row : Row) :
    t.keys.Pairwise fun key other =>
      (rows ++ [row]).findIdx (carries ids key) < (rows ++ [row]).findIdx (carries ids other) := by
  refine h.inOrder.imp_of_mem fun hkey hother hless => ?_
  rwa [findIdx_concat_of_exists row ((h.covers _).mp hkey),
    findIdx_concat_of_exists row ((h.covers _).mp hother)]

/-- A new key comes last, as its first row does. -/
theorem Lists.put {b : Buildup} (h : b.table.Lists ids rows) (row : Row) :
    (b.put ids row).table.Lists ids (rows ++ [row]) := by
  unfold Buildup.put
  cases hnull : hasNull (row.pick ids) with
  | true =>
    refine ⟨fun key => ?_, h.pairwise_concat row⟩
    simp [h.covers key, carries, hnull]
  | false =>
    have hcarries (key : List Value) :
        carries ids key row = true ↔ canonKey (row.pick ids) = key := by
      simp [carries, hnull]
    rw [if_neg Bool.false_ne_true]
    constructor
    · intro key
      simp only [keys_insert, List.mem_append, List.mem_singleton, or_and_right, exists_or,
        exists_eq_left, hcarries, ← h.covers key]
      split
      · rename_i hmem
        exact ⟨.inl, fun hkey => hkey.elim id fun he => he ▸ hmem⟩
      · simp [eq_comm]
    · simp only [keys_insert]
      split
      · exact h.pairwise_concat row
      · -- no row before has the new key, so its first row is the last one
        rename_i hnew
        refine List.pairwise_append.mpr ⟨h.pairwise_concat row, List.pairwise_singleton _ _, ?_⟩
        intro key hkey other hother
        obtain rfl := List.mem_singleton.mp hother
        have hnone : ¬ ∃ r ∈ rows, carries ids (canonKey (row.pick ids)) r = true :=
          fun hsome => hnew ((h.covers _).mpr hsome)
        have hfirst := List.findIdx_lt_length.mpr ((h.covers key).mp hkey)
        rw [findIdx_concat_of_exists row ((h.covers key).mp hkey), List.findIdx_append,
          if_neg (mt List.findIdx_lt_length.mp hnone)]
        omega

/-- Keys stand in the order of the first rows that have them. -/
theorem lists_ofRows (ids : List Nat) (rows : List Row) :
    (Buildup.ofRows ids rows).table.Lists ids rows := by
  induction rows using List.reverseRecOn with
  | nil => exact ⟨fun key => by simp [keys, Buildup.empty, empty], .nil⟩
  | append_singleton rows row ih =>
    rw [Buildup.ofRows_concat]
    exact ih.put row

theorem Lists.nodup (h : t.Lists ids rows) : t.keys.Nodup :=
  h.inOrder.imp fun hless he => by simp [he] at hless

theorem find?_eq_findIdx? (t : JoinTable) (key : List Value) :
    t.find? key = t.keys.findIdx? (· = canonKey key) := by
  rw [find?, keys, List.findIdx?_map]
  rfl

/-- Where a key is in a table is where it is among the keys. -/
theorem find?_eq_some_iff (hnodup : t.keys.Nodup) :
    t.find? key = some slot ↔ t.keys[slot]? = some (canonKey key) := by
  rw [find?_eq_findIdx?, List.findIdx?_eq_some_iff_getElem, List.getElem?_eq_some_iff]
  constructor
  · rintro ⟨hlt, hkey, -⟩
    exact ⟨hlt, by simpa using hkey⟩
  · rintro ⟨hlt, hkey⟩
    refine ⟨hlt, by simpa using hkey, ?_⟩
    intro j hj hother
    have hsame : t.keys[j] = t.keys[slot] := by simpa [hkey] using hother
    have := (List.Nodup.getElem_inj_iff hnodup).mp hsame
    omega

/-- A table has a slot for each key of some rows, in the order of the first rows of the keys, and a
slot holds the rows with its key in their order. -/
structure Partitions (t : JoinTable) (ids : List Nat) (rows : List Row) : Prop where
  found : ∀ key, (∃ slot, t.find? key = some slot) ↔ ∃ row ∈ rows, belongs ids key row = true
  bucket : ∀ key slot, t.find? key = some slot → t.bucket slot = rows.filter (belongs ids key)
  slots : ∀ slot, slot < t.keyCount ↔ ∃ key, t.find? key = some slot
  distinct : ∀ key other slot, t.find? key = some slot →
    (t.find? other = some slot ↔ sameKey key other = true)
  inOrder : ∀ key other slot slot', t.find? key = some slot → t.find? other = some slot' →
    (slot < slot' ↔ rows.findIdx (belongs ids key) < rows.findIdx (belongs ids other))
  filled : ∀ slot < t.keyCount, t.bucket slot ≠ []
  total : t.rowTotal =
    ((List.range t.keyCount).map fun slot => (t.bucket slot).length).foldr (· + ·) 0

theorem rowCountOf_eq_foldr (bs : List Bucket) :
    rowCountOf bs = (bs.map fun b => b.rows.length).foldr (· + ·) 0 := by
  induction bs with
  | nil => rfl
  | cons b rest ih => rw [rowCountOf, ih, List.map_cons, List.foldr_cons]

/-- The rows of a table are counted slot by slot. -/
theorem rowTotal_eq_foldr (t : JoinTable) : t.rowTotal =
    ((List.range t.keyCount).map fun slot => (t.bucket slot).length).foldr (· + ·) 0 := by
  have hlengths : (List.range t.keyCount).map (fun slot => (t.bucket slot).length) =
      t.buckets.map fun b => b.rows.length := by
    refine List.ext_getElem (by simp [keyCount]) fun slot _ hslot => ?_
    have hlt : slot < t.buckets.length := by simpa using hslot
    simp [bucket, List.getElem?_eq_getElem hlt]
  rw [hlengths, rowTotal, rowCountOf_eq_foldr]

theorem exists_find?_iff (hnodup : t.keys.Nodup) :
    (∃ slot, t.find? key = some slot) ↔ canonKey key ∈ t.keys := by
  simp only [find?_eq_some_iff hnodup, List.mem_iff_getElem?]

/-- Slots come in the order of the first rows of their keys. -/
theorem Lists.findIdx_lt (h : t.Lists ids rows) {slot' : Nat} (hkey : t.find? key = some slot)
    (hother : t.find? other = some slot') (hless : slot < slot') :
    rows.findIdx (belongs ids key) < rows.findIdx (belongs ids other) := by
  rw [find?_eq_some_iff h.nodup, List.getElem?_eq_some_iff] at hkey hother
  obtain ⟨hslot, hkey⟩ := hkey
  obtain ⟨hslot', hother⟩ := hother
  have hfirst := List.pairwise_iff_getElem.mp h.inOrder slot slot' hslot hslot' hless
  rwa [hkey, hother, ← belongs_eq_carries, ← belongs_eq_carries] at hfirst

theorem Lists.distinct (h : t.Lists ids rows) (hkey : t.find? key = some slot) :
    t.find? other = some slot ↔ sameKey key other = true := by
  rw [find?_eq_some_iff h.nodup] at hkey ⊢
  rw [hkey, sameKey_iff, Option.some_inj]

/-- A table whose keys are those of some rows, and whose buckets split these, partitions them. -/
theorem Lists.partitions (h : t.Lists ids rows) (hsplits : t.Splits ids rows) :
    t.Partitions ids rows where
  found key := by
    rw [exists_find?_iff h.nodup, h.covers, belongs_eq_carries]
  bucket key slot hslot := by
    have hfound := hsplits.find? key
    rw [hslot] at hfound
    exact hfound.2
  slots slot := by
    rw [← length_keys]
    constructor
    · intro hlt
      obtain ⟨row, -, hrow⟩ := (h.covers _).mp (List.getElem_mem hlt)
      obtain ⟨-, hcanon⟩ := Bool.and_eq_true_iff.mp hrow
      refine ⟨row.pick ids, (find?_eq_some_iff h.nodup).mpr ?_⟩
      rw [List.getElem?_eq_getElem hlt, of_decide_eq_true hcanon]
    · rintro ⟨key, hkey⟩
      exact (List.getElem?_eq_some_iff.mp ((find?_eq_some_iff h.nodup).mp hkey)).1
  distinct key other slot hkey := h.distinct hkey
  inOrder key other slot slot' hkey hother := by
    refine ⟨h.findIdx_lt hkey hother, fun hless => ?_⟩
    rcases Nat.lt_trichotomy slot slot' with hlt | rfl | hgt
    · exact hlt
    · have hsame := (sameKey_iff key other).mp ((h.distinct hkey).mp hother)
      rw [belongs_eq_carries, belongs_eq_carries, hsame] at hless
      exact absurd hless (Nat.lt_irrefl _)
    · exact absurd (h.findIdx_lt hother hkey hgt) (Nat.lt_asymm hless)
  filled slot hslot := by
    have hb : t.buckets[slot]? = some t.buckets[slot] := List.getElem?_eq_getElem hslot
    simpa [bucket, hb] using hsplits.filled _ (List.getElem_mem hslot)
  total := t.rowTotal_eq_foldr

/-- The table of some rows with all key columns is their partition. -/
theorem partitions_ofRows (hcovers : ∀ row ∈ rows, row.Covers ids) :
    (Buildup.ofRows ids rows).table.Partitions ids rows := by
  obtain ⟨built, hbuilt, hsplits⟩ := foldlM_add_splits (b := .empty) rows (.empty ids) hcovers
  obtain ⟨-, rfl⟩ := Buildup.foldlM_add_eq_ok.mp hbuilt
  exact (lists_ofRows ids rows).partitions hsplits

end JoinTable

/-- A table that looks up the number of a bucket in a map and counts its rows as they come. -/
structure IndexedTable where
  index : List (List Value × Nat)
  buckets : List (List Row)
  count : Nat

namespace IndexedTable

def empty : IndexedTable := ⟨[], [], 0⟩

variable (hash : List HashInput → UInt64)

/-- The slot that the map has for a key, looked for among the keys with its hash. -/
def find? (t : IndexedTable) (key : List Value) : Option Nat :=
  (t.index.find? fun entry =>
    hash (feedKey entry.1) == hash (feedKey key) && sameKey entry.1 key).map Prod.snd

/-- A new key is kept as it is, with the number of a new bucket. -/
def insert (t : IndexedTable) (key : List Value) (row : Row) : IndexedTable :=
  match t.find? hash key with
  | some slot => ⟨t.index, t.buckets.modify slot (· ++ [row]), t.count + 1⟩
  | none => ⟨t.index ++ [(key, t.buckets.length)], t.buckets ++ [[row]], t.count + 1⟩

/-- Takes in one more row, if there is no null in its key. -/
def put (ids : List Nat) (t : IndexedTable) (row : Row) : IndexedTable :=
  if hasNull (row.pick ids) then t else t.insert hash (row.pick ids) row

def ofRows (ids : List Nat) (rows : List Row) : IndexedTable := rows.foldl (put hash ids) empty

/-- The map numbers the keys of a join table in their order, the buckets are those of its slots and
the count is that of its rows. -/
structure Represents (t : IndexedTable) (table : JoinTable) : Prop where
  index : t.index.map (fun entry => (canonKey entry.1, entry.2)) = table.keys.zipIdx
  buckets : t.buckets = table.buckets.map Bucket.rows
  count : t.count = table.rowTotal

variable {hash : List HashInput → UInt64} {t : IndexedTable} {table : JoinTable}

theorem find?_zipIdx (keys : List (List Value)) (key : List Value) (n : Nat) :
    ((keys.zipIdx n).find? fun entry => decide (entry.1 = key)).map Prod.snd =
      (keys.findIdx? (decide <| · = key)).map (· + n) := by
  induction keys generalizing n with
  | nil => rfl
  | cons first rest ih =>
    rw [List.zipIdx_cons, List.find?_cons, List.findIdx?_cons]
    by_cases hkey : first = key
    · simp [hkey]
    · simp only [hkey, decide_false, Bool.false_eq_true, if_false, ih, Option.map_map]
      congr 1
      funext slot
      simp only [Function.comp_apply]
      omega

/-- Whatever the hash, the map knows the slots of the join table. -/
theorem Represents.find?_eq (h : t.Represents table) (key : List Value) :
    t.find? hash key = table.find? key := by
  have hhit : (fun entry : List Value × Nat =>
      hash (feedKey entry.1) == hash (feedKey key) && sameKey entry.1 key) =
        (fun entry : List Value × Nat => decide (entry.1 = canonKey key)) ∘
          fun entry => (canonKey entry.1, entry.2) := by
    funext entry
    rw [Bool.eq_iff_iff, HashMap.hit_iff ⟨entry.1, []⟩ key, Function.comp_apply, decide_eq_true_iff]
    rfl
  have hfind := find?_zipIdx table.keys (canonKey key) 0
  rw [← h.index, List.find?_map, Option.map_map] at hfind
  rw [find?, hhit, JoinTable.find?_eq_findIdx?]
  exact hfind.trans Option.map_id'

/-- A row goes into the bucket of its key on both sides, which is a new one on both or on none. The
numbers of the map and the places of the buckets grow together, so they go on agreeing. -/
theorem Represents.insert (h : t.Represents table) (key : List Value) (row : Row) :
    (t.insert hash key row).Represents (table.insert key row) := by
  unfold IndexedTable.insert
  rw [h.find?_eq key]
  have hbuckets : (table.insert key row).buckets =
      match table.find? key with
      | some slot => table.buckets.modify slot fun b => ⟨b.key, b.rows ++ [row]⟩
      | none => table.buckets ++ [⟨canonKey key, [row]⟩] :=
    HashMap.insertRow_eq (canonKey key) row table.buckets
  have hcount : t.count + 1 = (table.insert key row).rowTotal := by
    rw [h.count, JoinTable.rowTotal_insert]
  cases hfind : table.find? key with
  | some slot =>
    have hmem : canonKey key ∈ table.keys := by
      rw [JoinTable.find?_eq_findIdx?, List.findIdx?_eq_some_iff_getElem] at hfind
      obtain ⟨hlt, hkey, -⟩ := hfind
      exact of_decide_eq_true hkey ▸ List.getElem_mem hlt
    refine ⟨?_, ?_, hcount⟩
    · rw [JoinTable.keys_insert, if_pos hmem, h.index]
    · rw [hbuckets, hfind, h.buckets]
      exact (HashMap.map_modify (f := fun b : Bucket => ⟨b.key, b.rows ++ [row]⟩)
        (g := (· ++ [row])) (h := Bucket.rows) (fun _ => rfl) table.buckets slot).symm
  | none =>
    have hnew : canonKey key ∉ table.keys := by
      rw [JoinTable.find?_eq_findIdx?, List.findIdx?_eq_none_iff] at hfind
      intro hmem
      simpa using hfind _ hmem
    have hlength : t.buckets.length = table.keys.length := by
      rw [h.buckets, List.length_map, JoinTable.length_keys]
      rfl
    refine ⟨?_, ?_, hcount⟩
    · rw [JoinTable.keys_insert, if_neg hnew, List.zipIdx_append, List.map_append, h.index, hlength]
      simp
    · rw [hbuckets, hfind, h.buckets, List.map_append]
      rfl

/-- Whatever the hash, both tables are built along with each other. -/
theorem represents_ofRows (hash : List HashInput → UInt64) (ids : List Nat) (rows : List Row) :
    (ofRows hash ids rows).Represents (Buildup.ofRows ids rows).table := by
  induction rows using List.reverseRecOn with
  | nil => exact ⟨rfl, rfl, rfl⟩
  | append_singleton rows row ih =>
    rw [Buildup.ofRows_concat, ofRows, List.foldl_concat, Buildup.put, put]
    cases hasNull (row.pick ids) with
    | true => exact ih
    | false => exact ih.insert (row.pick ids) row

end IndexedTable

/-- Loading succeeds just if the input can be drained and all of its rows have the key columns. The
table is then the partition of these rows by key, as an index with buckets and a count shows it too,
and the rows that are not in it are those with a null in the key, whose number is logged. -/
theorem BuildSide.load_partitions (l : BuildSide) (input : Operator) (stopped : Bool)
    (s : input.State) :
    ((l.load input stopped s).outcome = .ok () ↔
      ∃ rows, input.Delivers stopped s l.keyColumns rows) ∧
    ∀ rows, input.Delivers stopped s l.keyColumns rows →
      ∃ table skipped, (l.load input stopped s).state.1.table = some table ∧
        table.Partitions l.keyColumns rows ∧
        skipped = rows.countP (fun row => hasNull (row.pick l.keyColumns)) ∧
        table.rowTotal + skipped = rows.length ∧
        (l.load input stopped s).events.getLast? =
          some (.log (.tableBuilt table.rowTotal table.keyCount skipped)) ∧
        ∀ hash, (IndexedTable.ofRows hash l.keyColumns rows).Represents table ∧
          ∀ key, (IndexedTable.ofRows hash l.keyColumns rows).find? hash key = table.find? key := by
  refine ⟨load_eq_ok, fun rows hrows => ?_⟩
  obtain ⟨hskipped, htotal⟩ := Buildup.counts_ofRows l.keyColumns rows
  refine ⟨(Buildup.ofRows l.keyColumns rows).table, (Buildup.ofRows l.keyColumns rows).skipped,
    ?_, JoinTable.partitions_ofRows hrows.covers, hskipped, htotal, getLast?_events_load hrows,
    fun hash => ?_⟩
  · rw [state_load hrows]
  · have hrepresents := IndexedTable.represents_ofRows hash l.keyColumns rows
    exact ⟨hrepresents, hrepresents.find?_eq⟩

/-- The two zeros share a slot, and so do floats that are no numbers. -/
theorem BuildSide.load_partitions_floats :
    let rows : List Row := [[.float .nan, .integer 1], [.null, .integer 2],
      [.float Binary64.zero.neg, .integer 3], [.float ⟨0xfff0000000000001⟩, .integer 4],
      [.float .zero, .integer 5]]
    let schema : Schema := ⟨[⟨"k", .float, true⟩, ⟨"v", .integer, false⟩]⟩
    let input := Operator.scan ⟨schema, rows, by decide⟩
    let step := (ofKeys [0]).load input false input.start
    input.Delivers false input.start [0] rows ∧ step.outcome = .ok () ∧
      ∃ table slot, step.state.1.table = some table ∧ table.Partitions [0] rows ∧
        step.events.getLast? = some (.log (.tableBuilt 4 table.keyCount 1)) ∧
        table.find? [.float .zero] = some slot ∧
        table.bucket slot =
          [[.float Binary64.zero.neg, .integer 3], [.float .zero, .integer 5]] := by
  intro rows schema input step
  have hrows : input.Delivers false input.start [0] rows :=
    ⟨Operator.collect_scan _, by decide⟩
  obtain ⟨hok, hload⟩ := (ofKeys [0]).load_partitions input false input.start
  obtain ⟨table, skipped, htable, hpartitions, hskipped, htotal, hlogged, -⟩ :=
    hload rows hrows
  obtain ⟨slot, hslot⟩ := (hpartitions.found [.float .zero]).mpr (by decide)
  obtain rfl : skipped = 1 := hskipped
  have hfour : table.rowTotal = 4 := Nat.succ.inj htotal
  rw [hfour] at hlogged
  exact ⟨hrows, hok.mpr ⟨rows, hrows⟩, table, slot, htable, hpartitions, hlogged, hslot,
    (hpartitions.bucket _ slot hslot).trans rfl⟩

end RowEngine
