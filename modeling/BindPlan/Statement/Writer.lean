import BindPlan.Bindings
import BindPlan.Condition.Lexeme
import BindPlan.Dialect.Identifier
import BindPlan.Dialect.Pagination
import BindPlan.Statement.Basic

namespace BindPlan

/-- The choices in writing identifiers. -/
structure WriteOptions where
  /-- Tables and columns stand in the quotes of the dialect. -/
  quoteIdentifiers : Bool := false
  /-- Columns carry the reference of their table, except where values are assigned to them. -/
  qualifyColumns : Bool := false
deriving DecidableEq, Repr

/-- The writing of statements in one dialect. -/
structure Writer where
  dialect : Dialect
  options : WriteOptions := {}
deriving DecidableEq, Repr

/-- A key that rows are sorted by, as the text of a statement has it. -/
inductive SortKey where
  /-- A flag that is zero for the rows that come first, by whether the column is null. -/
  | nullFlag (column : Column) (nullsFirst : Bool)
  | column (column : Column) (direction : Direction)
  /-- The column with the place of nulls stated behind it. -/
  | placed (column : Column) (direction : Direction) (nullsFirst : Bool)
deriving DecidableEq, Repr

def Direction.keyword : Direction → String
  | .asc => "ASC"
  | .desc => "DESC"

namespace Writer

def identifier (writer : Writer) (name : String) : String :=
  if writer.options.quoteIdentifiers then writer.dialect.quoteIdentifier name else name

/-- A table where its alias is declared. -/
def declaredTable (writer : Writer) (table : Table) : String :=
  match table.aliasName with
  | some aliasName => writer.identifier table.name ++ " " ++ writer.identifier aliasName
  | none => writer.identifier table.name

/-- A table where no alias can be declared. -/
def table (writer : Writer) (table : Table) : String := writer.identifier table.name

/-- A column where no table is named with it. -/
def bareColumn (writer : Writer) (column : Column) : String := writer.identifier column.name

/-- A column, with the reference of its table where that is asked for. -/
def column (writer : Writer) (column : Column) : String :=
  match column.table with
  | some reference =>
      if writer.options.qualifyColumns then
        writer.identifier reference ++ "." ++ writer.bareColumn column
      else writer.bareColumn column
  | none => writer.bareColumn column

def expression (writer : Writer) : Expression → Fragment
  | .column column => Fragment.ofText (writer.column column)
  | .marker marker => Fragment.ofMarker marker
  | .bool truth => Fragment.ofText (writer.dialect.boolLiteral truth)
  | .int integer => Fragment.ofText (toString integer)
  | .upper operand =>
      Fragment.ofText "UPPER(" ++ writer.expression operand ++ Fragment.ofText ")"

def expressions (writer : Writer) (expressions : List Expression) : Fragment :=
  Fragment.joined ", " (expressions.map writer.expression)

/-- The membership of an operand in a list. -/
def listed (writer : Writer) (negated : Bool) (operand : Expression) (values : List Expression) :
    Fragment :=
  writer.expression operand ++ Fragment.ofText (if negated then " NOT IN (" else " IN (")
    ++ writer.expressions values ++ Fragment.ofText ")"

/-- The membership of an operand in a range. -/
def ranged (writer : Writer) (negated : Bool) (operand low high : Expression) : Fragment :=
  writer.expression operand
    ++ Fragment.ofText (if negated then " NOT BETWEEN " else " BETWEEN ")
    ++ writer.expression low ++ Fragment.ofText " AND " ++ writer.expression high

def test (writer : Writer) : Test → Except Error Fragment
  | .compare comparison left right =>
      .ok (writer.expression left ++ Fragment.ofText (" " ++ comparison.sql ++ " ")
        ++ writer.expression right)
  | .contains left right =>
      if writer.dialect.comparesArrays then
        .ok (writer.expression left ++ Fragment.ofText " @> " ++ writer.expression right)
      else .error (.unsupportedContainment writer.dialect)
  | .isIn operand values => .ok (writer.listed false operand values)
  | .between operand low high => .ok (writer.ranged false operand low high)
  | .isNull operand => .ok (writer.expression operand ++ Fragment.ofText " IS NULL")
  | .isNotNull operand => .ok (writer.expression operand ++ Fragment.ofText " IS NOT NULL")

def atom (writer : Writer) : Atom → Except Error Fragment
  | .plain test => writer.test test
  | .notIn operand values => .ok (writer.listed true operand values)
  | .notBetween operand low high => .ok (writer.ranged true operand low high)

def lexeme (writer : Writer) : Lexeme → Except Error Fragment
  | .opening => .ok (Fragment.ofText "(")
  | .closing => .ok (Fragment.ofText ")")
  | .not => .ok (Fragment.ofText "NOT ")
  | .and => .ok (Fragment.ofText " AND ")
  | .or => .ok (Fragment.ofText " OR ")
  | .atom atom => writer.atom atom

def lexemes (writer : Writer) : List Lexeme → Except Error Fragment
  | [] => .ok []
  | lexeme :: rest => return (← writer.lexeme lexeme) ++ (← lexemes writer rest)

def condition (writer : Writer) (condition : Condition) : Except Error Fragment :=
  writer.lexemes condition.lexemes

/-- The WHERE clause, or nothing without a condition. -/
def whereClause (writer : Writer) : Option Condition → Except Error Fragment
  | none => .ok []
  | some condition => (Fragment.ofText " WHERE " ++ ·) <$> writer.condition condition

/-- The sort keys of an order key. Where a dialect cannot place nulls, a flag sorts them first or
last before the column itself is compared. -/
def sortKeys (writer : Writer) (key : Statement.OrderKey) : List SortKey :=
  match key.nulls with
  | .native => [.column key.column key.direction]
  | placement =>
      let nullsFirst := placement = .first
      if writer.dialect.ordersNulls then [.placed key.column key.direction nullsFirst]
      else [.nullFlag key.column nullsFirst, .column key.column key.direction]

def sortKey (writer : Writer) : SortKey → String
  | .column column direction => writer.column column ++ " " ++ direction.keyword
  | .placed column direction nullsFirst =>
      writer.column column ++ " " ++ direction.keyword
        ++ if nullsFirst then " NULLS FIRST" else " NULLS LAST"
  | .nullFlag column nullsFirst =>
      "CASE WHEN " ++ writer.column column ++ " IS NULL THEN "
        ++ if nullsFirst then "0 ELSE 1 END" else "1 ELSE 0 END"

def orderClause (writer : Writer) (keys : List Statement.OrderKey) : String :=
  if keys.isEmpty then ""
  else " ORDER BY " ++ ", ".intercalate ((keys.flatMap writer.sortKeys).map writer.sortKey)

/-- The pagination clause. A dialect that skips rows of ordered statements only is given an order
that says nothing where the statement has none. -/
def pageClause (writer : Writer) (ordered : Bool) (page : Page) : String :=
  match writer.dialect.pageClause? page.limit page.offset with
  | none => ""
  | some clause =>
      (if writer.dialect.skipsOrderedOnly && !ordered then " ORDER BY (SELECT 1)" else "")
        ++ " " ++ clause.sql

def select (writer : Writer) (statement : Statement.Select) : Except Error Fragment := do
  let columns :=
    if statement.projection.isEmpty then "*"
    else ", ".intercalate (statement.projection.map writer.column)
  let condition ← writer.whereClause statement.condition
  return Fragment.ofText ("SELECT " ++ (if statement.distinct then "DISTINCT " else "") ++ columns
      ++ " FROM " ++ writer.declaredTable statement.table)
    ++ condition
    ++ Fragment.ofText (writer.orderClause statement.order
      ++ writer.pageClause (!statement.order.isEmpty) statement.page)

/-- The clause before the values that asks for generated keys. -/
def outputClause (writer : Writer) (columns : List Column) : String :=
  if columns.isEmpty || writer.dialect.keyRetrieval != .output then ""
  else
    let inserted := columns.map fun column => "INSERTED." ++ writer.bareColumn column
    " OUTPUT " ++ ", ".intercalate inserted

/-- The clause behind the values that asks for generated keys. -/
def returningClause (writer : Writer) (columns : List Column) : String :=
  if columns.isEmpty || writer.dialect.keyRetrieval != .returning then ""
  else " RETURNING " ++ ", ".intercalate (columns.map writer.bareColumn)

def insert (writer : Writer) (statement : Statement.Insert) : Fragment :=
  Fragment.ofText ("INSERT INTO " ++ writer.table statement.table ++ " ("
      ++ ", ".intercalate (statement.columns.map writer.bareColumn) ++ ")"
      ++ writer.outputClause statement.returning ++ " VALUES (")
    ++ writer.expressions statement.values
    ++ Fragment.ofText (")" ++ writer.returningClause statement.returning)

def assignment (writer : Writer) (assignment : Column × Expression) : Fragment :=
  Fragment.ofText (writer.bareColumn assignment.1 ++ " = ") ++ writer.expression assignment.2

def update (writer : Writer) (statement : Statement.Update) : Except Error Fragment := do
  let condition ← writer.whereClause statement.condition
  return Fragment.ofText ("UPDATE " ++ writer.table statement.table ++ " SET ")
    ++ Fragment.joined ", " (statement.assignments.map writer.assignment) ++ condition

def delete (writer : Writer) (statement : Statement.Delete) : Except Error Fragment := do
  let condition ← writer.whereClause statement.condition
  return Fragment.ofText ("DELETE FROM " ++ writer.table statement.table) ++ condition

def statement (writer : Writer) : Statement → Except Error Fragment
  | .select statement => writer.select statement
  | .insert statement => .ok (writer.insert statement)
  | .update statement => writer.update statement
  | .delete statement => writer.delete statement

end Writer

end BindPlan
