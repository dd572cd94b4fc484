import RowEngine.Toml.Value

/-!
# TOML documents, line by line

A line gives a value to a key in the current table, or a header makes another table the current one.
A table has at most one header, and neither a header nor a dotted key may reach into what was made
another way.
-/

namespace RowEngine.Toml

open TextReader

inductive Line where
  | pair (path : List String) (node : Node)
  | header (path : List String)
  | arrayHeader (path : List String)

structure Table where
  origin : Origin
  entries : Entries

/-- Goes down a path of keys, making the tables that are not there, and changes the table at its
end. An array of tables stands for its newest table. Dotted keys do not lead through tables with a
header. -/
def Table.update {α : Type} (dotted : Bool) (change : Table → Option (α × Table)) :
    List String → Table → Option (α × Table)
  | [], t => change t
  | part :: rest, t =>
    match find? part t.entries with
    | none => do
      let (a, inner) ← update dotted change rest ⟨if dotted then .dotted else .implied, []⟩
      return (a, { t with entries := set part (.table inner.origin inner.entries) t.entries })
    | some (.table origin entries) =>
      if dotted ∧ origin = .stated then none
      else do
        let (a, inner) ← update dotted change rest ⟨origin, entries⟩
        return (a, { t with entries := set part (.table inner.origin inner.entries) t.entries })
    | some (.tables rows) =>
      match rows with
      | [] => none
      | newest :: older => do
        let (a, inner) ← update dotted change rest ⟨.stated, newest⟩
        let node := Node.tables (inner.entries :: older)
        return (a, { t with entries := set part node t.entries })
    | some _ => none

/-- A document that is being read: everything but the current table, and where that belongs. -/
structure Draft where
  root : Table
  current : Entries
  path : List String
  isArray : Bool

namespace Draft

def start : Draft := ⟨⟨.stated, []⟩, [], [], false⟩

def splitLast? (path : List String) : Option (List String × String) :=
  path.getLast?.map (path.dropLast, ·)

def finish (d : Draft) : Option Table :=
  match splitLast? d.path with
  | none => some ⟨.stated, d.current⟩
  | some (before, last) =>
    let place (t : Table) : Option (Unit × Table) :=
      match d.isArray, find? last t.entries with
      | true, none => some ((), { t with entries := set last (.tables [d.current]) t.entries })
      | true, some (.tables rows) =>
        some ((), { t with entries := set last (.tables (d.current :: rows)) t.entries })
      | true, some _ => none
      | false, none =>
        some ((), { t with entries := set last (.table .stated d.current) t.entries })
      | false, some _ => none
    (Table.update false place before d.root).map (·.2)

/-- The header of a table: the table may be there already as part of the path to another. -/
def openTable (d : Draft) (path : List String) : Option Draft := do
  let root ← d.finish
  let (before, last) ← splitLast? path
  let take (t : Table) : Option (Entries × Table) :=
    match find? last t.entries with
    | none => some ([], t)
    | some (.table .implied entries) =>
      some (entries, { t with entries := remove last t.entries })
    | some _ => none
  let (current, root) ← Table.update false take before root
  return ⟨root, current, path, false⟩

def openArray (d : Draft) (path : List String) : Option Draft := do
  let root ← d.finish
  let (before, last) ← splitLast? path
  let look (t : Table) : Option (Unit × Table) :=
    match find? last t.entries with
    | none | some (.tables _) => some ((), t)
    | some _ => none
  let (_, root) ← Table.update false look before root
  return ⟨root, [], path, true⟩

/-- A key with dots leads into tables made by such keys only, and each key is new. -/
def addPair (d : Draft) (path : List String) (node : Node) : Option Draft := do
  let (before, last) ← splitLast? path
  let add (t : Table) : Option (Unit × Table) :=
    if !before.isEmpty && t.origin != .dotted then none
    else
      match find? last t.entries with
      | some _ => none
      | none => some ((), { t with entries := set last node t.entries })
  let (_, current) ← Table.update true add before ⟨.stated, d.current⟩
  return { d with current := current.entries }

def addLine (d : Draft) : Line → Option Draft
  | .pair path node => d.addPair path node
  | .header path => d.openTable path
  | .arrayHeader path => d.openArray path

end Draft

def pairLine : TextReader Line := do
  let path ← key
  char '='
  blanks
  let node ← value nestingLimit
  lineRest
  return .pair path node

def headerLine : TextReader Line := do
  char '['
  let path ← key
  char ']'
  lineRest
  return .header path

def arrayHeaderLine : TextReader Line := do
  string "[["
  let path ← key
  string "]]"
  lineRest
  return .arrayHeader path

/-- One line; `none` for a line without content. -/
def line : TextReader (Option Line) := do
  match ← peek with
  | some '#' => comment *> lineEnd *> pure none
  | some '\n' | some '\r' => newline *> pure none
  | some '[' => some <$> (arrayHeaderLine <|> headerLine)
  | _ => some <$> pairLine

/-- All lines, after a byte order mark if there is one. -/
def lines : TextReader (List Line) := do
  discard (optional (char '\ufeff'))
  blanks
  let found ← many (line <* blanks)
  return found.filterMap id

def read? (s : String) : Option Entries := do
  let found ← lines.whole? s.toList
  let draft ← found.foldlM Draft.addLine Draft.start
  return (← draft.finish).entries

end RowEngine.Toml
