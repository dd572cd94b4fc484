import RowEngine.Date.Text
import RowEngine.Json.Number
import RowEngine.Json.Reader
import RowEngine.Json.Writer
import RowEngine.Schema
import RowEngine.Settings.Basic
import RowEngine.Stats
import RowEngine.Value.Basic

/-!
# Values, schemas, statistics and settings as JSON

A record is an object with its fields in order; it is also read from an array of its fields. Unknown
fields of an object are passed over, and a known field may occur once. A value or a type is named by
a text, and a value with content is an object of one field whose key is the name.
-/

namespace RowEngine.Json

def toBoolean? : Json → Option Bool
  | boolean b => some b
  | _ => none

def toText? : Json → Option String
  | text s => s
  | _ => none

def toArray? : Json → Option (List Json)
  | array items => some items
  | _ => none

/-- An integer from `low` to `high`. -/
def toInteger? (low high : Int) : Json → Option Int
  | number n => n.integer?.filter fun i => decide (low ≤ i) && decide (i ≤ high)
  | _ => none

def toInt64? (j : Json) : Option Int64 :=
  (toInteger? Int64.minValue.toInt Int64.maxValue.toInt j).map Int64.ofInt

def toCount? (j : Json) : Option Nat := (toInteger? 0 maxCount j).map Int.toNat

def toByte? (j : Json) : Option UInt8 :=
  (toInteger? 0 255 j).map fun n => UInt8.ofNat n.toNat

def toFloat? : Json → Option Binary64
  | number n => n.float?
  | _ => none

/-- Blanks may surround each part of a date. -/
def toDate? (j : Json) : Option Date := j.toText?.bind fun s => Date.read? true s.toList

/-- The one value of a key, `some none` if there is none. -/
def fieldOf? (fields : List (String × Json)) (key : String) : Option (Option Json) :=
  match fields.filter (·.1 == key) with
  | [] => some none
  | [(_, j)] => some (some j)
  | _ => none

/-- The fields of a record, those that are missing as `none`. -/
def record? (keys : List String) : Json → Option (List (Option Json))
  | object fields => do
    let named ← fields.mapM fun (key, j) => key.map (·, j)
    keys.mapM (fieldOf? named)
  | array items =>
    if items.length ≤ keys.length then
      some (items.map some ++ List.replicate (keys.length - items.length) none)
    else none
  | _ => none

/-- A name with what it carries; a name alone carries nothing. -/
def tagged? : Json → Option (String × Option Json)
  | text s => s.map (·, none)
  | object [(key, j)] => key.map (·, some j)
  | _ => none

/-- The tag of something without content is written alone or with null. -/
def isBare : Option Json → Bool
  | none | some null => true
  | _ => false

def typeNamed? (name : String) : Option DataType := DataType.all.find? (·.name == name)

def toType? (j : Json) : Option DataType := do
  let (name, content) ← j.tagged?
  if isBare content then typeNamed? name else none

def contentOf? (type : DataType) (j : Json) : Option Value :=
  match type with
  | .null => none
  | .boolean => j.toBoolean?.map Value.boolean
  | .integer => j.toInt64?.map Value.integer
  | .float => j.toFloat?.map Value.float
  | .text => j.toText?.map Value.text
  | .date => j.toDate?.map Value.date
  | .blob => (j.toArray?.bind (·.mapM toByte?)).map Value.blob

def toValue? (j : Json) : Option Value := do
  let (name, content) ← j.tagged?
  match ← typeNamed? name, content with
  | .null, content => if isBare content then some Value.null else none
  | type, some j => contentOf? type j
  | _, none => none

def toColumn? (j : Json) : Option Column :=
  match j.record? ["name", "data_type", "is_nullable"] with
  | some [some name, some type, some nullable] => do
    return ⟨← name.toText?, ← type.toType?, ← nullable.toBoolean?⟩
  | _ => none

def toSchema? (j : Json) : Option Schema :=
  match j.record? ["columns"] with
  | some [some columns] => (columns.toArray?.bind (·.mapM toColumn?)).map Schema.mk
  | _ => none

def toStats? (j : Json) : Option Stats :=
  match j.record? ["num_rows", "num_bytes", "read_bytes"] with
  | some [some rows, some bytes, some readBytes] => do
    return ⟨← rows.toCount?, ← bytes.toCount?, ← readBytes.toCount?⟩
  | _ => none

def present? {α : Type} (read : Json → Option α) : Option Json → Option (Option α)
  | some j => (read j).map some
  | none => some none

/-- Settings, each of which may be missing. Capacities are not checked. -/
def toSettings? (j : Json) : Option Settings :=
  match j.record? ["sort_buffer_capacity", "hash_table_capacity", "nulls_first"] with
  | some [sortBuffer, hashTable, nullsFirst] => do
    let draft : Settings.Draft :=
      ⟨← present? toCount? sortBuffer, ← present? toCount? hashTable,
        ← present? toBoolean? nullsFirst⟩
    return draft.complete
  | _ => none

def ofType (t : DataType) : String := Writer.text t.name

def ofContent : Value → Option String
  | .null => none
  | .boolean b => some (Writer.boolean b)
  | .integer n => some (toString n.toInt)
  | .float x => some (Writer.float x)
  | .text s => some (Writer.text s)
  | .date d => some (Writer.text d.text)
  | .blob bytes => some (Writer.array (bytes.map fun b => toString b.toNat))

def ofValue (v : Value) : String :=
  match ofContent v with
  | none => ofType v.type
  | some content => Writer.object [(v.type.name, content)]

def ofColumn (c : Column) : String :=
  Writer.object [("name", Writer.text c.name), ("data_type", ofType c.type),
    ("is_nullable", Writer.boolean c.nullable)]

def ofSchema (s : Schema) : String :=
  Writer.object [("columns", Writer.array (s.columns.map ofColumn))]

def ofStats (s : Stats) : String :=
  Writer.object [("num_rows", toString s.rows), ("num_bytes", toString s.bytes),
    ("read_bytes", toString s.readBytes)]

def ofSettings (s : Settings) : String :=
  Writer.object [("sort_buffer_capacity", toString s.sortBuffer),
    ("hash_table_capacity", toString s.hashTable), ("nulls_first", Writer.boolean s.nullsFirst)]

end RowEngine.Json
