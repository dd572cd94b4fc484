import RowEngine.Text.CasedTable
import RowEngine.Text.LowerTable
import RowEngine.Text.UpperTable

/-!
# Upper and lower case of texts

Each character is replaced by its full mapping, which may be several characters. One mapping depends
on the neighbours: a capital sigma that ends a word becomes the final small sigma.
-/

namespace RowEngine

def isCased (c : Char) : Bool := inRanges casedRanges c.toNat

def isCaseIgnorable (c : Char) : Bool := inRanges caseIgnorableRanges c.toNat

def caseImage (table : List ShiftRange) (texts : List (Nat × List Nat)) (c : Char) : List Char :=
  match texts.find? (·.1 == c.toNat) with
  | some (_, image) => image.map Char.ofNat
  | none => [Char.ofNat (shiftedCode table c.toNat)]

def upperImage (c : Char) : List Char :=
  if c.toNat < 0x80 then [c.toUpper] else caseImage upperTable upperTexts c

def lowerImage (c : Char) : List Char :=
  if c.toNat < 0x80 then [c.toLower] else caseImage lowerTable lowerTexts c

/-- The first character that is not passed over has case. -/
def meetsCased (cs : List Char) : Bool :=
  match cs.dropWhile isCaseIgnorable with
  | c :: _ => isCased c
  | [] => false

/-- The lower case of the rest of a text, `before` being what precedes it, last character first. -/
def lowerFrom (before : List Char) : List Char → List Char
  | [] => []
  | c :: rest =>
    let image :=
      if c == 'Σ' then if meetsCased before && !meetsCased rest then ['ς'] else ['σ']
      else lowerImage c
    image ++ lowerFrom (c :: before) rest

def upperCase (s : String) : String := String.ofList (s.toList.flatMap upperImage)

def lowerCase (s : String) : String := String.ofList (lowerFrom [] s.toList)

end RowEngine
