import RowEngine.Date.Text
import RowEngine.Decimal.Layout
import RowEngine.Text.Quoted
import RowEngine.Value.Basic

/-!
# Values with their types shown

The text by which messages show the values a function was called with: the type, then the content in
parentheses, texts in quotes. Floats can be told from integers: they have a fraction or an exponent.
-/

namespace RowEngine

def bracketed (items : List String) : String := "[" ++ ", ".intercalate items ++ "]"

namespace Value

/-- An exponent is written below `0.0001` and from `10 ^ 16` on. -/
def inspectLayout : Layout := ⟨some (-3, 16), true, false, .up⟩

def inspect : Value → String
  | null => "Null"
  | boolean b => if b then "Boolean(true)" else "Boolean(false)"
  | integer n => s!"Integer({n.toInt})"
  | float x => s!"Float({inspectLayout.text x})"
  | text s => s!"Text({quoted s})"
  | date d => s!"Date({d.text})"
  | blob bytes => s!"Blob({bracketed (bytes.map fun b => toString b.toNat)})"

def inspectList (values : List Value) : String := bracketed (values.map inspect)

def inspectArgument : Option Value → String
  | some v => s!"Some({v.inspect})"
  | none => "None"

end Value

end RowEngine
