import RowEngine.Text.FoldTable

/-!
# Case folding of characters

Two characters differ in case alone when they fold to the same character.
-/

namespace RowEngine

def foldCase (c : Char) : Char :=
  if c.toNat < 0x80 then c.toLower else Char.ofNat (shiftedCode foldTable c.toNat)

/-- The characters that fold as `c` does, in the order of their codes. -/
def caseVariants (c : Char) : List Char :=
  let folded := (foldCase c).toNat
  let codes := (folded :: codesShiftedTo foldTable folded).mergeSort
  codes.map Char.ofNat

end RowEngine
