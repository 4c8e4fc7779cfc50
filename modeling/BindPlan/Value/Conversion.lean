import BindPlan.Error

namespace BindPlan

/-- A converter turns values into storable ones, or says with any error of its own why it does not. -/
structure Converter where
  /-- The storable form of a value for a column of the declared type. -/
  toStorable : Value → StorageType → Except Error Value
  /-- The storable array for a value and an element type. -/
  toArray : Value → StorageType → Except Error Value

namespace Converter

/-- The storable form of a scalar for a declared type that is not an array. -/
def widen (declared : StorageType) (value : Value) : Except Error Value :=
  match value, declared with
  | .int integer, .float => .ok (.float (.ofInt integer.toInt))
  | .int integer, .text => .ok (.text (toString integer.toInt))
  | .bool truth, .int => .ok (.int (if truth then 1 else 0))
  | .int integer, .bool =>
      if integer = 0 then .ok (.bool false)
      else if integer = 1 then .ok (.bool true)
      else .error (.conversion (.notBoolean integer))
  | .text content, .bytes => .ok (.bytes content.toUTF8.toList)
  | value, _ => .ok value

/-- The storable form of a value. Lists and arrays become arrays where an array is declared. -/
def storable : StorageType → Value → Except Error Value
  | .array element, .list items => return .array (← items.mapM (storable element))
  | .array element, .array items => return .array (← items.mapM (storable element))
  | declared, value => widen declared value

/-- The converter that applies widenings and passes everything else through. -/
def standard : Converter where
  toStorable value declared := storable declared value
  toArray value element := return .array (← value.items.mapM (storable element))

end Converter

end BindPlan
