import RowEngine.Binary64.Basic

/-!
# TOML documents

The tree of a TOML text. A table remembers how it came about, because that decides whether a later
line may add to it. Dates and times are recognised but not kept.
-/

namespace RowEngine.Toml

inductive Origin where
  /-- Its own header, or braces. -/
  | stated
  /-- The header of a table inside it. -/
  | implied
  /-- A key with dots. -/
  | dotted
  deriving DecidableEq, Repr

inductive Node where
  | text (s : String)
  | integer (n : Int64)
  | float (x : Binary64)
  | boolean (b : Bool)
  | dateTime
  | array (items : List Node)
  | inlineTable (origin : Origin) (entries : List (String × Node))
  | table (origin : Origin) (entries : List (String × Node))
  /-- The tables under a header in double brackets, the newest first. -/
  | tables (rows : List (List (String × Node)))

/-- The entries of a table, in no particular order; no key occurs twice. -/
abbrev Entries := List (String × Node)

def find? (key : String) (entries : Entries) : Option Node :=
  (entries.find? (·.1 == key)).map (·.2)

def remove (key : String) (entries : Entries) : Entries :=
  entries.filter (·.1 != key)

def set (key : String) (node : Node) (entries : Entries) : Entries :=
  (key, node) :: remove key entries

end RowEngine.Toml
