import BindPlan.Criteria.Mapping
import BindPlan.Statement.Writer

namespace BindPlan

/-- The assembly of statements for one dialect. Markers are handed out in textual order: the assigned
values first, then the operands of the WHERE clause. -/
structure Assembler where
  dialect : Dialect
  converter : Converter := .standard
  metadata : Metadata := .empty
  options : WriteOptions := {}

namespace Assembler

def writer (assembler : Assembler) : Writer := ⟨assembler.dialect, assembler.options⟩

/-- The outcome of an action on the fresh allocator of a statement. -/
def runFresh {A : Type} (assembler : Assembler) (action : Allocating A) : Except Error A :=
  (action.run.run assembler.dialect.markerStyle.allocator).1

/-- The column of a property in a table. -/
def column (assembler : Assembler) (table : Table) (property : String) : Column :=
  table.column (assembler.metadata.columnName property)

/-- The column of a property where no table is named with it. -/
def bareColumn (assembler : Assembler) (property : String) : Column :=
  { name := assembler.metadata.columnName property }

/-- The condition of the WHERE clause, or none if the criteria hold no predicate. -/
def mapWhere (assembler : Assembler) (table : Table) (criteria : Criteria) :
    Allocating (Option Condition × Bindings) := do
  if criteria.isEmpty then return (none, [])
  let mapper : Mapper := ⟨assembler.dialect, assembler.converter, assembler.metadata, table⟩
  let mapped ← mapper.map criteria
  return (some mapped.condition, mapped.bindings)

/-- The type of an assignment: its own, or that of its property, or that of its value. -/
def assignedType (assembler : Assembler) (assignment : Assignment) : StorageType :=
  (assignment.declared <|> assembler.metadata.type? assignment.property).getD
    assignment.value.storageType

/-- The column of an assignment with the binding of its value. -/
def assign (assembler : Assembler) (assignment : Assignment) : Allocating (Column × Binding) := do
  let column := assembler.bareColumn assignment.property
  let binding ← Mapper.bind assembler.converter column.name assignment.value
    (assembler.assignedType assignment)
  return (column, binding)

def assignAll (assembler : Assembler) (kind : AssignmentKind) (assignments : List Assignment) :
    Allocating (List (Column × Binding)) := do
  if assignments.isEmpty then throw (.emptyAssignment kind)
  assignments.mapM assembler.assign

/-- The order key of a request in terms of columns. -/
def orderKey (assembler : Assembler) (table : Table) (order : Order) : Statement.OrderKey :=
  ⟨assembler.column table order.property, order.direction, order.nulls⟩

def assembleSelect (assembler : Assembler) (request : Request.Select) :
    Except Error (Statement.Select × Bindings) :=
  assembler.runFresh do
    let (condition, bindings) ← assembler.mapWhere request.table request.criteria
    let statement : Statement.Select :=
      { table := request.table
        projection := request.projection.map (assembler.column request.table)
        distinct := request.distinct
        condition
        order := request.sort.map (assembler.orderKey request.table)
        page := request.page }
    return (statement, bindings)

def assembleInsert (assembler : Assembler) (request : Request.Insert) :
    Except Error (Statement.Insert × Bindings) :=
  assembler.runFresh do
    let assigned ← assembler.assignAll .insert request.assignments
    let statement : Statement.Insert :=
      { table := request.table
        columns := assigned.map Prod.fst
        values := assigned.map fun entry => .marker entry.2.marker
        returning := request.returning.map assembler.bareColumn }
    return (statement, assigned.map Prod.snd)

/-- An UPDATE names its table without an alias, so its condition refers to the bare table. -/
def assembleUpdate (assembler : Assembler) (request : Request.Update) :
    Except Error (Statement.Update × Bindings) :=
  assembler.runFresh do
    let assigned ← assembler.assignAll .update request.assignments
    let (condition, bindings) ← assembler.mapWhere request.table.unaliased request.criteria
    let statement : Statement.Update :=
      { table := request.table
        assignments := assigned.map fun entry => (entry.1, .marker entry.2.marker)
        condition }
    return (statement, assigned.map Prod.snd ++ bindings)

/-- A DELETE names its table without an alias, so its condition refers to the bare table. -/
def assembleDelete (assembler : Assembler) (request : Request.Delete) :
    Except Error (Statement.Delete × Bindings) :=
  assembler.runFresh do
    let (condition, bindings) ← assembler.mapWhere request.table.unaliased request.criteria
    return ({ table := request.table, condition }, bindings)

def buildSelect (assembler : Assembler) (request : Request.Select) : Except Error Prepared := do
  let (statement, bindings) ← assembler.assembleSelect request
  return ⟨← assembler.writer.select statement, bindings, none⟩

/-- An INSERT that asks for columns back says in which way they come. -/
def buildInsert (assembler : Assembler) (request : Request.Insert) : Except Error Prepared := do
  let (statement, bindings) ← assembler.assembleInsert request
  let keys := if statement.returning.isEmpty then none else some assembler.dialect.keyRetrieval
  return ⟨assembler.writer.insert statement, bindings, keys⟩

def buildUpdate (assembler : Assembler) (request : Request.Update) : Except Error Prepared := do
  let (statement, bindings) ← assembler.assembleUpdate request
  return ⟨← assembler.writer.update statement, bindings, none⟩

def buildDelete (assembler : Assembler) (request : Request.Delete) : Except Error Prepared := do
  let (statement, bindings) ← assembler.assembleDelete request
  return ⟨← assembler.writer.delete statement, bindings, none⟩

/-- The statement that a request asks for, with its bindings. -/
def assemble (assembler : Assembler) : Request → Except Error (Statement × Bindings)
  | .select request => (Prod.map .select id) <$> assembler.assembleSelect request
  | .insert request => (Prod.map .insert id) <$> assembler.assembleInsert request
  | .update request => (Prod.map .update id) <$> assembler.assembleUpdate request
  | .delete request => (Prod.map .delete id) <$> assembler.assembleDelete request

/-- The text of the statement that a request asks for, with its bind plan. -/
def build (assembler : Assembler) : Request → Except Error Prepared
  | .select request => assembler.buildSelect request
  | .insert request => assembler.buildInsert request
  | .update request => assembler.buildUpdate request
  | .delete request => assembler.buildDelete request

end Assembler

end BindPlan
