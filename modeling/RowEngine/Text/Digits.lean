/-!
# Digits

Characters as digits of a base, and the numbers that runs of digits stand for.
-/

namespace RowEngine

def isHexDigit (c : Char) : Bool :=
  c.isDigit || ('a' ≤ c && c ≤ 'f') || ('A' ≤ c && c ≤ 'F')

def digitValue (c : Char) : Nat :=
  if c.isDigit then c.toNat - '0'.toNat
  else if c.toNat < 'a'.toNat then c.toNat - 'A'.toNat + 10
  else c.toNat - 'a'.toNat + 10

def natOfDigits (base : Nat) (cs : List Char) : Nat :=
  cs.foldl (fun n c => base * n + digitValue c) 0

@[simp] theorem natOfDigits_nil (base : Nat) : natOfDigits base [] = 0 := rfl

end RowEngine
