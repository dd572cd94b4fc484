import RowEngine.Error

/-!
# Settings

The settings of the operators. Whatever is not set has its default. Capacities are the room that is
reserved in advance; they change no answer, but one of zero is refused.
-/

namespace RowEngine

structure Settings where
  /-- The rows for which a sort reserves room. -/
  sortBuffer : Nat
  /-- The keys for which a join reserves room. -/
  hashTable : Nat
  /-- Where nulls go under a sort key that does not say. -/
  nullsFirst : Bool
  deriving DecidableEq, Repr

namespace Settings

def default : Settings := ⟨1000, 1024, false⟩

def check (s : Settings) : Except Failure Settings :=
  if s.sortBuffer = 0 then .error (.configuration .zeroSortBuffer)
  else if s.hashTable = 0 then .error (.configuration .zeroHashTable)
  else .ok s

/-- Settings of which some may be left open. -/
structure Draft where
  sortBuffer : Option Nat
  hashTable : Option Nat
  nullsFirst : Option Bool
  deriving DecidableEq, Repr

namespace Draft

def empty : Draft := ⟨none, none, none⟩

def complete (d : Draft) : Settings :=
  ⟨d.sortBuffer.getD default.sortBuffer, d.hashTable.getD default.hashTable,
    d.nullsFirst.getD default.nullsFirst⟩

def build (d : Draft) : Except Failure Settings := d.complete.check

end Draft

end Settings

end RowEngine
