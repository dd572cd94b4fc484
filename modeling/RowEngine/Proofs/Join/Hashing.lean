import Mathlib.Data.List.Forall2
import RowEngine.Proofs.Join.Table
import RowEngine.Proofs.Value.Equality
import RowEngine.Value.Hash

/-!
# Keys in a hash map

A join table finds a key by its representative. A hash map does not know representatives: it keeps
each key as it first came and looks for it among the keys with its hash. The two agree for every
hash, because values that are the same feed it the same data. So a key finds all rows whose key
columns compare as equal to it, whatever the zeros and the floats that are no numbers look like.
-/

namespace RowEngine

namespace Value

variable {a b c : Value}

/-- Values of one type that no comparison tells apart. -/
def Alike (a b : Value) : Prop := a.type = b.type ∧ a.compare b = .eq

instance (a b : Value) : Decidable (a.Alike b) := by
  unfold Alike
  infer_instance

/-- Values of one type are the same just if no comparison tells them apart. -/
theorem same_iff_alike : a.same b = true ↔ a.Alike b := by
  constructor
  · intro h
    have htype := type_of_same h
    exact ⟨htype, (same_iff_compare htype).mp h⟩
  · rintro ⟨htype, hcompare⟩
    exact (same_iff_compare htype).mpr hcompare

theorem same_iff_canon : a.same b = true ↔ a.canon = b.canon := decide_eq_true_iff

theorem equivalence_same : Equivalence fun a b : Value => a.same b = true := by
  constructor
  · intro a
    exact same_iff_canon.mpr rfl
  · intro a b h
    exact same_iff_canon.mpr (same_iff_canon.mp h).symm
  · intro a b c hab hbc
    exact same_iff_canon.mpr ((same_iff_canon.mp hab).trans (same_iff_canon.mp hbc))

/-- Values that are the same feed the same data, floats those of their representative. -/
theorem feed_eq_of_same (h : a.same b = true) : a.feed = b.feed := by
  have htype := type_of_same h
  have hcanon := same_iff_canon.mp h
  cases a <;> cases b <;> cases htype
  case null.null => rfl
  case float.float x y =>
    have hbits : x.canon = y.canon := by simpa [canon] using hcanon
    simp only [feed, feedContent, kindPlace, hbits]
  all_goals
    cases hcanon
    rfl

end Value

theorem sameKey_iff_forall₂ (key other : List Value) :
    sameKey key other = true ↔ List.Forall₂ Value.Alike key other := by
  induction key generalizing other with
  | nil => cases other <;> simp [sameKey]
  | cons a key ih =>
    cases other with
    | nil => simp [sameKey]
    | cons b other => simp [sameKey, Value.same_iff_alike, ih]

theorem equivalence_sameKey :
    Equivalence fun key other : List Value => sameKey key other = true := by
  constructor
  · intro key
    exact (sameKey_iff key key).mpr rfl
  · intro key other h
    exact (sameKey_iff other key).mpr ((sameKey_iff key other).mp h).symm
  · intro key other third h₁ h₂
    exact (sameKey_iff key third).mpr
      (((sameKey_iff key other).mp h₁).trans ((sameKey_iff other third).mp h₂))

/-- Keys that are the same feed one sequence to a hash, value by value. -/
theorem flatMap_feed_of_sameKey {key other : List Value} (h : sameKey key other = true) :
    key.length = other.length ∧ key.flatMap Value.feed = other.flatMap Value.feed := by
  induction key generalizing other with
  | nil =>
    cases other with
    | nil => exact ⟨rfl, rfl⟩
    | cons b other => cases h
  | cons a key ih =>
    cases other with
    | nil => cases h
    | cons b other =>
      obtain ⟨hab, hrest⟩ := Bool.and_eq_true_iff.mp h
      obtain ⟨hlength, hfeed⟩ := ih hrest
      simp only [List.length_cons, List.flatMap_cons, hlength, hfeed, Value.feed_eq_of_same hab,
        and_self]

theorem feedKey_eq_of_sameKey {key other : List Value} (h : sameKey key other = true) :
    feedKey key = feedKey other := by
  obtain ⟨hlength, hfeed⟩ := flatMap_feed_of_sameKey h
  rw [feedKey, feedKey, hlength, hfeed]

/-- A table with the rows of some entries, each under its key, taken one after the other. -/
def JoinTable.ofEntries (entries : List (List Value × Row)) : JoinTable :=
  entries.foldl (fun t entry => t.insert entry.1 entry.2) .empty

namespace HashMap

variable (hash : List HashInput → UInt64)

/-- The slot of a key, looked for among the keys with its hash. -/
def find? (buckets : List Bucket) (key : List Value) : Option Nat :=
  buckets.findIdx? fun b => hash (feedKey b.key) == hash (feedKey key) && sameKey b.key key

/-- A new key is kept as it is. -/
def insert (buckets : List Bucket) (key : List Value) (row : Row) : List Bucket :=
  match find? hash buckets key with
  | some slot => buckets.modify slot fun b => ⟨b.key, b.rows ++ [row]⟩
  | none => buckets ++ [⟨key, [row]⟩]

def ofEntries (entries : List (List Value × Row)) : List Bucket :=
  entries.foldl (fun buckets entry => insert hash buckets entry.1 entry.2) []

end HashMap

/-- The bucket with its key in the form that a join table keeps. -/
def Bucket.canon (b : Bucket) : Bucket := ⟨canonKey b.key, b.rows⟩

namespace HashMap

variable {hash : List HashInput → UInt64}

/-- No key is missed for its hash. -/
theorem hit_iff (b : Bucket) (key : List Value) :
    (hash (feedKey b.key) == hash (feedKey key) && sameKey b.key key) = true ↔
      b.canon.key = canonKey key := by
  rw [Bool.and_eq_true_iff, sameKey_iff, beq_iff_eq]
  constructor
  · exact And.right
  · intro h
    exact ⟨congrArg hash (feedKey_eq_of_sameKey ((sameKey_iff _ _).mpr h)), h⟩

/-- Keys that are the same have one hash, so looking among the keys of that hash misses none. -/
theorem find?_eq (buckets : List Bucket) (key : List Value) :
    find? hash buckets key = JoinTable.find? ⟨buckets.map Bucket.canon⟩ key := by
  unfold find? JoinTable.find?
  rw [List.findIdx?_map]
  congr 1
  funext b
  rw [Bool.eq_iff_iff, hit_iff]
  simp

/-- Adding a row at the end of the first bucket with a key, or in a new one after all others. -/
theorem insertRow_eq (key : List Value) (row : Row) (buckets : List Bucket) :
    insertRow key row buckets =
      match buckets.findIdx? (·.key = key) with
      | some slot => buckets.modify slot fun b => ⟨b.key, b.rows ++ [row]⟩
      | none => buckets ++ [⟨key, [row]⟩] := by
  induction buckets with
  | nil => rfl
  | cons b rest ih =>
    by_cases hb : b.key = key
    · simp [insertRow, List.findIdx?_cons, hb]
    · rw [insertRow, if_neg hb, ih, List.findIdx?_cons]
      cases rest.findIdx? (·.key = key) <;> simp [hb]

theorem map_modify {α β : Type} {f : α → α} {g : β → β} {h : α → β} (hcomm : ∀ a, h (f a) = g (h a))
    (as : List α) (i : Nat) : (as.modify i f).map h = (as.map h).modify i g := by
  apply List.ext_getElem?
  intro j
  simp only [List.getElem?_map, List.getElem?_modify]
  cases as[j]? with
  | none => rfl
  | some a => by_cases hij : i = j <;> simp [hij, hcomm]

/-- Whatever the hash, a row goes where it goes in the table that knows representatives. -/
theorem insert_eq (buckets : List Bucket) (key : List Value) (row : Row) :
    (insert hash buckets key row).map Bucket.canon =
      insertRow (canonKey key) row (buckets.map Bucket.canon) := by
  rw [insertRow_eq]
  unfold insert
  rw [find?_eq]
  unfold JoinTable.find?
  cases (buckets.map Bucket.canon).findIdx? (·.key = canonKey key) with
  | none => simp [Bucket.canon]
  | some slot =>
    let extend (b : Bucket) : Bucket := ⟨b.key, b.rows ++ [row]⟩
    have hcomm (b : Bucket) : (extend b).canon = extend b.canon := rfl
    exact map_modify hcomm buckets slot

/-- Entry by entry, both tables grow by the same row in the same place. -/
theorem ofEntries_eq (entries : List (List Value × Row)) :
    (ofEntries hash entries).map Bucket.canon = (JoinTable.ofEntries entries).buckets := by
  have hfold (buckets : List Bucket) (t : JoinTable) (h : buckets.map Bucket.canon = t.buckets) :
      (entries.foldl (fun buckets entry => insert hash buckets entry.1 entry.2) buckets).map
          Bucket.canon =
        (entries.foldl (fun t entry => t.insert entry.1 entry.2) t).buckets := by
    induction entries generalizing buckets t with
    | nil => exact h
    | cons entry entries ih =>
      refine ih _ _ ?_
      rw [insert_eq, h]
      rfl
  exact hfold [] .empty rfl

theorem find?_ofEntries (entries : List (List Value × Row)) (key : List Value) :
    find? hash (ofEntries hash entries) key = (JoinTable.ofEntries entries).find? key := by
  rw [find?_eq, ofEntries_eq]

end HashMap

/-- The bucket of a key holds the rows of all entries with the same key, in their order. -/
theorem JoinTable.rowsUnder_ofEntries (entries : List (List Value × Row)) (key : List Value) :
    rowsUnder (canonKey key) (ofEntries entries).buckets =
      (entries.filter fun entry => sameKey key entry.1).map Prod.snd := by
  have hfold (t : JoinTable) :
      rowsUnder (canonKey key)
          (entries.foldl (fun t entry => t.insert entry.1 entry.2) t).buckets =
        rowsUnder (canonKey key) t.buckets ++
          (entries.filter fun entry => sameKey key entry.1).map Prod.snd := by
    induction entries generalizing t with
    | nil => simp
    | cons entry entries ih =>
      have hkey : canonKey entry.1 = canonKey key ↔ sameKey key entry.1 = true := by
        rw [sameKey_iff]
        exact eq_comm
      rw [List.foldl_cons, ih, JoinTable.insert, rowsUnder_insertRow, List.filter_cons]
      by_cases hsame : sameKey key entry.1 = true <;> simp [hkey, hsame]
  exact hfold .empty

/-- A row is found under every key that is the same as the one it was entered with. -/
theorem JoinTable.exists_slot {entries : List (List Value × Row)} {key other : List Value}
    {row : Row} (hentry : (other, row) ∈ entries) (hsame : sameKey key other = true) :
    ∃ slot, (ofEntries entries).find? key = some slot ∧ row ∈ (ofEntries entries).bucket slot := by
  have hrow : row ∈ rowsUnder (canonKey key) (ofEntries entries).buckets := by
    rw [rowsUnder_ofEntries]
    exact List.mem_map_of_mem (List.mem_filter.mpr ⟨hentry, hsame⟩)
  cases hfind : (ofEntries entries).find? key with
  | none =>
    rw [rowsUnder_of_findIdx?_none hfind] at hrow
    cases hrow
  | some slot =>
    obtain ⟨b, hb, hrows⟩ := rowsUnder_of_findIdx?_some hfind
    refine ⟨slot, rfl, ?_⟩
    rw [hrows] at hrow
    simpa [bucket, hb] using hrow

/-- What is added to a table holds each added row under its key, but for a null in it. -/
theorem Buildup.exists_entries {ids : List Nat} {rows : List Row} {built : Buildup}
    (before : Buildup) (old : List (List Value × Row)) (hbefore : before.table = .ofEntries old)
    (h : rows.foldlM (Buildup.add ids) before = .ok built) :
    ∃ entries, built.table = .ofEntries (old ++ entries) ∧
      ∀ row ∈ rows, ∀ key, keyOf row ids = .ok key → hasNull key = false →
        (key, row) ∈ entries := by
  induction rows generalizing before old with
  | nil =>
    obtain rfl : before = built := by simpa [pure, Except.pure] using h
    exact ⟨[], by simpa using hbefore, by simp⟩
  | cons row rows ih =>
    rw [List.foldlM_cons, bind_eq_ok] at h
    obtain ⟨next, hadd, hrest⟩ := h
    unfold add at hadd
    split at hadd
    · cases hadd
    rename_i key hkey
    cases hadd
    cases hnull : hasNull key with
    | true =>
      rw [hnull, if_pos rfl] at hrest
      obtain ⟨entries, htable, hentries⟩ :=
        ih { before with skipped := before.skipped + 1 } old hbefore hrest
      refine ⟨entries, htable, List.forall_mem_cons.mpr ⟨?_, hentries⟩⟩
      intro key' hkey' hnull'
      obtain rfl := Except.ok.inj (hkey.symm.trans hkey')
      rw [hnull] at hnull'
      cases hnull'
    | false =>
      rw [hnull, if_neg Bool.false_ne_true] at hrest
      have hinsert : before.table.insert key row = .ofEntries (old ++ [(key, row)]) := by
        rw [hbefore, JoinTable.ofEntries, JoinTable.ofEntries, List.foldl_append]
        rfl
      obtain ⟨entries, htable, hentries⟩ :=
        ih { before with table := before.table.insert key row } _ hinsert hrest
      refine ⟨(key, row) :: entries, by simpa using htable, List.forall_mem_cons.mpr ⟨?_, ?_⟩⟩
      · intro key' hkey' _
        obtain rfl := Except.ok.inj (hkey.symm.trans hkey')
        exact List.mem_cons_self
      · intro r hr key' hkey' hnull'
        exact List.mem_cons_of_mem _ (hentries r hr key' hkey' hnull')

/-- Sameness, hashing and comparing agree on values and on keys, so that a key finds the bucket of
every row that was put under an alike key, in a hash map with any hash as in a join table, and of
every row of an input that a join table is built from and that has such a key without a null. -/
theorem same_agrees :
    (∀ a b : Value, a.same b = true ↔ a.type = b.type ∧ a.compare b = .eq) ∧
    Equivalence (fun a b : Value => a.same b = true) ∧
    (∀ a b : Value, a.same b = true → a.feed = b.feed) ∧
    (∀ key other, sameKey key other = true ↔ List.Forall₂ Value.Alike key other) ∧
    Equivalence (fun key other => sameKey key other = true) ∧
    (∀ key other, sameKey key other = true → feedKey key = feedKey other) ∧
    (∀ (hash : List HashInput → UInt64) (entries : List (List Value × Row)) (key other : List Value)
      (row : Row), (other, row) ∈ entries →
      List.Forall₂ Value.Alike key other →
      ∃ slot, HashMap.find? hash (HashMap.ofEntries hash entries) key = some slot ∧
        (JoinTable.ofEntries entries).find? key = some slot ∧
        row ∈ (JoinTable.ofEntries entries).bucket slot) ∧
    ∀ (ids : List Nat) (rows : List Row) (built : Buildup),
      rows.foldlM (Buildup.add ids) .empty = .ok built →
      ∀ row ∈ rows, ∀ key other, keyOf row ids = .ok other → hasNull other = false →
      List.Forall₂ Value.Alike key other →
      ∃ slot, built.table.find? key = some slot ∧ row ∈ built.table.bucket slot := by
  refine ⟨fun a b => Value.same_iff_alike, Value.equivalence_same,
    fun a b => Value.feed_eq_of_same, sameKey_iff_forall₂, equivalence_sameKey,
    fun key other => feedKey_eq_of_sameKey, ?_, ?_⟩
  · intro hash entries key other row hentry halike
    obtain ⟨slot, hfind, hrow⟩ :=
      JoinTable.exists_slot hentry ((sameKey_iff_forall₂ key other).mpr halike)
    exact ⟨slot, (HashMap.find?_ofEntries entries key).trans hfind, hfind, hrow⟩
  · intro ids rows built hbuilt row hrow key other hkey hnull halike
    obtain ⟨entries, htable, hentries⟩ := Buildup.exists_entries .empty [] rfl hbuilt
    rw [htable]
    exact JoinTable.exists_slot (hentries row hrow other hkey hnull)
      ((sameKey_iff_forall₂ key other).mpr halike)

/-- A zero finds the row of the other zero, and a float that is no number that of another one. -/
theorem same_agrees_floats :
    let row : Row := [.float .zero, .integer 7, .float .nan]
    let key : List Value := [.float ⟨0xfff0000000000001⟩, .float Binary64.zero.neg]
    let entries : List (List Value × Row) := [([.null], []), ([.float .nan, .float .zero], row)]
    let hash (data : List HashInput) : UInt64 := .ofNat data.length
    (∃ built : Buildup,
      [row, [.null, .integer 8, .float .nan]].foldlM (Buildup.add [2, 0]) .empty = .ok built ∧
      ∃ slot, built.table.find? key = some slot ∧ row ∈ built.table.bucket slot) ∧
    ∃ slot, HashMap.find? hash (HashMap.ofEntries hash entries) key = some slot ∧
      (JoinTable.ofEntries entries).find? key = some slot ∧
      row ∈ (JoinTable.ofEntries entries).bucket slot := by
  intro row key entries hash
  obtain ⟨-, -, -, -, -, -, hhash, hbuilt⟩ := same_agrees
  have halike : List.Forall₂ Value.Alike key [.float .nan, .float .zero] := by decide
  have hentry : ([.float .nan, .float .zero], row) ∈ entries :=
    List.mem_cons_of_mem _ List.mem_cons_self
  constructor
  · exact ⟨_, rfl, hbuilt [2, 0] [row, [.null, .integer 8, .float .nan]] _ rfl row
      List.mem_cons_self key _ rfl rfl halike⟩
  · exact hhash hash entries key _ row hentry halike

end RowEngine
