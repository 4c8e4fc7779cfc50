import BindPlan.Criteria.Basic
import BindPlan.Marker.Basic

namespace BindPlan

/-- A table, optionally under an alias. -/
structure Table where
  name : String
  aliasName : Option String := none
deriving DecidableEq, Repr

namespace Table

/-- The name by which columns refer to the table. -/
def reference (table : Table) : String := table.aliasName.getD table.name

/-- The table without its alias. -/
def unaliased (table : Table) : Table := { name := table.name }

end Table

/-- A column with the reference of its table, if it has one. -/
structure Column where
  table : Option String := none
  name : String
deriving DecidableEq, Repr

/-- The column of a table. -/
def Table.column (table : Table) (name : String) : Column := ⟨some table.reference, name⟩

inductive Expression where
  | column (column : Column)
  | marker (marker : Marker)
  | bool (truth : Bool)
  | int (integer : Int)
  /-- The operand in upper case. -/
  | upper (operand : Expression)
deriving DecidableEq, Repr

/-- A condition that cannot be divided. -/
inductive Test where
  | compare (comparison : Comparison) (left right : Expression)
  /-- The left array contains the right one. -/
  | contains (left right : Expression)
  | isIn (operand : Expression) (values : List Expression)
  | between (operand low high : Expression)
  | isNull (operand : Expression)
  | isNotNull (operand : Expression)
deriving DecidableEq, Repr

inductive Condition where
  | test (test : Test)
  | not (condition : Condition)
  | and (left right : Condition)
  | or (left right : Condition)
  /-- A condition in parentheses. -/
  | nested (condition : Condition)
deriving DecidableEq, Repr

namespace Expression

def markers : Expression → List Marker
  | marker found => [found]
  | upper operand => operand.markers
  | column _ | bool _ | int _ => []

end Expression

namespace Test

def markers : Test → List Marker
  | compare _ left right | contains left right => left.markers ++ right.markers
  | isIn operand values => operand.markers ++ values.flatMap Expression.markers
  | between operand low high => operand.markers ++ low.markers ++ high.markers
  | isNull operand | isNotNull operand => operand.markers

end Test

namespace Condition

/-- The markers of a condition in textual order. -/
def markers : Condition → List Marker
  | test found => found.markers
  | not condition | nested condition => condition.markers
  | and left right | or left right => left.markers ++ right.markers

def compare (comparison : Comparison) (left right : Expression) : Condition :=
  .test (.compare comparison left right)

/-- A condition that no row meets. -/
def alwaysFalse : Condition := compare .eq (.int 1) (.int 0)

/-- A condition that every row meets. -/
def alwaysTrue : Condition := compare .eq (.int 1) (.int 1)

/-- The condition or its negation. -/
def negateIf (negated : Bool) (condition : Condition) : Condition :=
  if negated then .not condition else condition

/-- Two conditions joined by a connective. -/
def join : Connective → Condition → Condition → Condition
  | .and => .and
  | .or => .or

end Condition

end BindPlan
