import RowEngine.Error
import RowEngine.Expr.Eval
import RowEngine.Text.Quoted

/-!
# What operators do besides answering

While it works, an operator writes to the log, calls functions, and reads rows from the tables at
the leaves. An `Event` is one of these, and every answer comes with the events that led to it, in
order.
-/

namespace RowEngine

inductive LogLevel where
  | trace
  | debug
  | warn
  deriving DecidableEq, Repr

namespace LogLevel

def name : LogLevel → String
  | trace => "TRACE"
  | debug => "DEBUG"
  | warn => "WARN"

end LogLevel

inductive Side where
  | left
  | right
  deriving DecidableEq, Repr

namespace Side

def name : Side → String
  | left => "left"
  | right => "right"

end Side

inductive LogEntry where
  | scanRescanned (rowsRead : Nat)
  | sortMaterialized (rows keys : Nat)
  | joinPlanned (qual : String) (filter : Option String)
  | tableBuilt (rows keys nullKeys : Nat)
  | tableReleased (rows : Nat)
  | closeFailed (side : Side) (failure : Failure)
  deriving DecidableEq, Repr

namespace LogEntry

def level : LogEntry → LogLevel
  | scanRescanned _ => .trace
  | closeFailed _ _ => .warn
  | _ => .debug

def message : LogEntry → String
  | scanRescanned _ => "rescanning sequential scan"
  | sortMaterialized _ _ => "sort input materialized"
  | joinPlanned _ _ => "planned hash left outer join"
  | tableBuilt _ _ _ => "join hash table built"
  | tableReleased _ => "join hash table released"
  | closeFailed _ _ => "failed to close join input"

def optionText : Option String → String
  | some s => s!"Some({quoted s})"
  | none => "None"

/-- The named values of an entry, as text. -/
def fields : LogEntry → List (String × String)
  | scanRescanned rowsRead => [("rows_read", toString rowsRead)]
  | sortMaterialized rows keys => [("rows", toString rows), ("keys", toString keys)]
  | joinPlanned qual filter => [("join_qual", qual), ("join_filter", optionText filter)]
  | tableBuilt rows keys nullKeys =>
    [("rows", toString rows), ("keys", toString keys), ("null_keys", toString nullKeys)]
  | tableReleased rows => [("rows", toString rows)]
  | closeFailed side failure => [("side", side.name), ("error", failure.message)]

end LogEntry

inductive Event where
  | log (entry : LogEntry)
  | call (call : Call)
  | read (row : Row)

namespace Event

def log? : Event → Option LogEntry
  | log entry => some entry
  | _ => none

def call? : Event → Option Call
  | call c => some c
  | _ => none

def read? : Event → Option Row
  | read row => some row
  | _ => none

end Event

end RowEngine
