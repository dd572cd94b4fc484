/-!
# Input statistics

How many rows and bytes the leaves under an operator have handed out. The counters stop at the
largest number of 64 bits.
-/

namespace RowEngine

def maxCount : Nat := Nat.pow 2 64 - 1

def addCounts (a b : Nat) : Nat := min (a + b) maxCount

structure Stats where
  rows : Nat
  bytes : Nat
  readBytes : Nat
  deriving DecidableEq, Repr

namespace Stats

def zero : Stats := ⟨0, 0, 0⟩

def add (a b : Stats) : Stats :=
  ⟨addCounts a.rows b.rows, addCounts a.bytes b.bytes, addCounts a.readBytes b.readBytes⟩

def addRow (s : Stats) (bytes : Nat) : Stats := s.add ⟨1, bytes, bytes⟩

end Stats

end RowEngine
