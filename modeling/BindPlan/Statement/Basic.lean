import BindPlan.Statement.Request

namespace BindPlan.Statement

/-- One key of an order, by its column. -/
structure OrderKey where
  column : Column
  direction : Direction
  nulls : NullPlacement
deriving DecidableEq, Repr

structure Select where
  table : Table
  /-- No column stands for all columns. -/
  projection : List Column
  distinct : Bool
  condition : Option Condition
  order : List OrderKey
  page : Page
deriving DecidableEq, Repr

structure Insert where
  table : Table
  columns : List Column
  values : List Expression
  returning : List Column
deriving DecidableEq, Repr

structure Update where
  table : Table
  assignments : List (Column × Expression)
  condition : Option Condition
deriving DecidableEq, Repr

structure Delete where
  table : Table
  condition : Option Condition
deriving DecidableEq, Repr

end BindPlan.Statement

namespace BindPlan

inductive Statement where
  | select (statement : Statement.Select)
  | insert (statement : Statement.Insert)
  | update (statement : Statement.Update)
  | delete (statement : Statement.Delete)
deriving DecidableEq, Repr

end BindPlan
