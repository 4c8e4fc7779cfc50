import BindPlan.Number.Shortest
import BindPlan.Text.Quoted
import BindPlan.Value.Basic

namespace BindPlan.Value

/-- Numbers are positional from 10^-4 up to 10^16, and a tie between two decimals goes up. -/
def numberLayout : NumberLayout where
  positionalFrom := -4
  positionalBelow := 16
  exponentSign := []
  tie := .up
  notANumber := "NaN"
  infinity := "inf"

def bracketed (items : List String) : String := "[" ++ ", ".intercalate items ++ "]"

mutual

/-- The kind of the value with its content. -/
def quoted : Value → String
  | null => "Null"
  | bool truth => "Bool(" ++ toString truth ++ ")"
  | int integer => "Int(" ++ toString integer.toInt ++ ")"
  | float number => "Float(" ++ numberLayout.render number ++ ")"
  | text content => "Text(" ++ Text.quoted content ++ ")"
  | bytes content => "Bytes(" ++ bracketed (content.map fun byte => toString byte.toNat) ++ ")"
  | array items => "Array(" ++ bracketed (quotedItems items) ++ ")"
  | list items => "List(" ++ bracketed (quotedItems items) ++ ")"
  | tuple items => "Tuple(" ++ bracketed (quotedItems items) ++ ")"

def quotedItems : List Value → List String
  | [] => []
  | item :: rest => quoted item :: quotedItems rest

end

end BindPlan.Value
