import BindPlan.Json.Basic
import BindPlan.Source

namespace BindPlan

/-- The value of a number. A whole number that does not fit in a value is rounded. -/
def Value.ofJsonNumber : Json.Number → Value
  | .whole integer =>
      if Int64.minValue.toInt ≤ integer ∧ integer ≤ Int64.maxValue.toInt then
        .int (Int64.ofInt integer)
      else .float (.ofInt integer)
  | .rounded number => .float number

namespace Value

mutual

def ofJson : Json → Value
  | .null => null
  | .bool truth => bool truth
  | .number number => ofJsonNumber number
  | .text content => text content
  | .array items => list (ofJsonItems items)
  | .object members => text (Json.object members).render

def ofJsonItems : List Json → List Value
  | [] => []
  | item :: rest => ofJson item :: ofJsonItems rest

end

end Value

/-- The source that the members of an object make up. Nothing else is a source. -/
def Source.ofJson? : Json → Option Source
  | .object members =>
      some (.ofList (members.map fun member => (member.1, Value.ofJson member.2)))
  | _ => none

end BindPlan
