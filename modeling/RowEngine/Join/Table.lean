import RowEngine.Operator.Basic

/-!
# Join tables

The rows of one join input, grouped by the values of their key columns. Groups are numbered in the
order in which their keys first occur, and rows of one group keep their order. Rows with a null in
the key are left out, because null equals nothing.
-/

namespace RowEngine

def keyOf (row : Row) (ids : List Nat) : Except EvalError (List Value) :=
  ids.mapM fun i =>
    match row[i]? with
    | some v => .ok v
    | none => .error (.columnOutOfBounds i row.length)

/-- A key with every value in the form that stands for all values that are the same. -/
def canonKey (key : List Value) : List Value := key.map Value.canon

def hasNull (key : List Value) : Bool := key.any Value.isNull

structure Bucket where
  key : List Value
  rows : List Row

/-- Puts a row into the bucket of its key, which is a new one at the end for a new key. -/
def insertRow (key : List Value) (row : Row) : List Bucket → List Bucket
  | [] => [⟨key, [row]⟩]
  | b :: rest =>
    if b.key = key then ⟨b.key, b.rows ++ [row]⟩ :: rest else b :: insertRow key row rest

structure JoinTable where
  buckets : List Bucket

namespace JoinTable

def empty : JoinTable := ⟨[]⟩

def insert (t : JoinTable) (key : List Value) (row : Row) : JoinTable :=
  ⟨insertRow (canonKey key) row t.buckets⟩

def find? (t : JoinTable) (key : List Value) : Option Nat :=
  t.buckets.findIdx? (·.key = canonKey key)

/-- The rows of a slot; there are none in a slot that does not exist. -/
def bucket (t : JoinTable) (slot : Nat) : List Row :=
  match t.buckets[slot]? with
  | some b => b.rows
  | none => []

def keyCount (t : JoinTable) : Nat := t.buckets.length

def isEmpty (t : JoinTable) : Bool := t.buckets.isEmpty

def rowCountOf : List Bucket → Nat
  | [] => 0
  | b :: rest => b.rows.length + rowCountOf rest

def rowTotal (t : JoinTable) : Nat := rowCountOf t.buckets

/-- Whichever bucket it goes into, there is one row more. -/
theorem rowCountOf_insertRow (key : List Value) (row : Row) (bs : List Bucket) :
    rowCountOf (insertRow key row bs) = rowCountOf bs + 1 := by
  induction bs with
  | nil => rfl
  | cons b rest ih =>
    unfold insertRow
    split
    · simp only [rowCountOf, List.length_append, List.length_singleton]
      omega
    · simp only [rowCountOf, ih]
      omega

@[simp] theorem rowTotal_insert (t : JoinTable) (key : List Value) (row : Row) :
    (t.insert key row).rowTotal = t.rowTotal + 1 := rowCountOf_insertRow _ row t.buckets

theorem length_rows_le {b : Bucket} {bs : List Bucket} (h : b ∈ bs) :
    b.rows.length ≤ rowCountOf bs := by
  induction bs with
  | nil => simp at h
  | cons a rest ih =>
    simp only [rowCountOf]
    rcases List.mem_cons.mp h with rfl | h
    · omega
    · have := ih h
      omega

/-- No bucket holds more rows than the table. -/
theorem length_bucket_le (t : JoinTable) (slot : Nat) : (t.bucket slot).length ≤ t.rowTotal := by
  unfold bucket rowTotal
  split
  · rename_i b h
    exact length_rows_le (List.mem_of_getElem? h)
  · simp

end JoinTable

/-- A table that is being built, with the number of rows left out so far. -/
structure Buildup where
  table : JoinTable
  skipped : Nat

namespace Buildup

def empty : Buildup := ⟨.empty, 0⟩

def add (ids : List Nat) (b : Buildup) (row : Row) : Except Failure Buildup :=
  match keyOf row ids with
  | .error e => .error (.evaluation e)
  | .ok key =>
    .ok (if hasNull key then { b with skipped := b.skipped + 1 }
      else { b with table := b.table.insert key row })

theorem rowTotal_add_le {ids : List Nat} {b b' : Buildup} {row : Row}
    (h : b.add ids row = .ok b') : b'.table.rowTotal ≤ b.table.rowTotal + 1 := by
  unfold add at h
  split at h
  · simp at h
  · obtain rfl := Except.ok.inj h
    split <;> simp

end Buildup

/-- Builds a table at most once for as long as it is held, and counts how often it was built and let
go. A failed attempt changes nothing. -/
structure BuildSide where
  keyColumns : List Nat
  table : Option JoinTable
  loads : Nat
  releases : Nat

namespace BuildSide

def ofKeys (keyColumns : List Nat) : BuildSide := ⟨keyColumns, none, 0, 0⟩

def load (l : BuildSide) (input : Operator) (stopped : Bool) (s : input.State) :
    Step (BuildSide × input.State) Unit :=
  let step := input.fold stopped (Buildup.add l.keyColumns) .empty s
  match step.outcome with
  | .error e => ⟨.error e, (l, step.state), step.events⟩
  | .ok built =>
    let entry := LogEntry.tableBuilt built.table.rowTotal built.table.keyCount built.skipped
    ⟨.ok (), ({ l with table := some built.table, loads := l.loads + 1 }, step.state),
      step.events ++ [.log entry]⟩

/-- Lets the table go, if there is one; the answer tells whether there was. -/
def release (l : BuildSide) : Step BuildSide Bool :=
  match l.table with
  | some t =>
    ⟨.ok true, { l with table := none, releases := l.releases + 1 },
      [.log (.tableReleased t.rowTotal)]⟩
  | none => ⟨.ok false, l, []⟩

/-- A load that fails leaves the build as it was. -/
theorem load_error {l : BuildSide} {input : Operator} {stopped : Bool} {s : input.State}
    {e : Failure} (h : (l.load input stopped s).outcome = .error e) :
    (l.load input stopped s).state.1 = l := by
  unfold load at h ⊢
  dsimp only at h ⊢
  split <;> simp_all

theorem remaining_load_le (l : BuildSide) (input : Operator) (stopped : Bool) (s : input.State) :
    input.remaining (l.load input stopped s).state.2 ≤ input.remaining s := by
  have := input.remaining_fold_le stopped (Buildup.add l.keyColumns) .empty s
  unfold load
  dsimp only
  split <;> exact this

/-- Loading uses up at least one row of the input for each row of the new table. -/
theorem rowTotal_load_le (l : BuildSide) (input : Operator) (stopped : Bool) (s : input.State)
    {t : JoinTable} (hok : (l.load input stopped s).outcome = .ok ())
    (h : (l.load input stopped s).state.1.table = some t) :
    t.rowTotal ≤ input.remaining s := by
  unfold load at hok h
  cases hfold : (input.fold stopped (Buildup.add l.keyColumns) .empty s).outcome with
  | error e => simp [hfold] at hok
  | ok built =>
    simp only [hfold, Option.some.injEq] at h
    subst h
    have := input.size_fold_le stopped (Buildup.add l.keyColumns) (fun b => b.table.rowTotal)
      (fun _ _ _ h => Buildup.rowTotal_add_le h) .empty s hfold
    simp only [Buildup.empty, JoinTable.empty, JoinTable.rowTotal, JoinTable.rowCountOf] at this
    unfold JoinTable.rowTotal
    omega

end BuildSide

end RowEngine
