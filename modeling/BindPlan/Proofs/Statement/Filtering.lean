import BindPlan.Proofs.Criteria.Emptiness
import BindPlan.Proofs.Statement.Alignment

namespace BindPlan

/-- The condition of a statement. An INSERT has none. -/
def Statement.condition? : Statement → Option Condition
  | .select statement => statement.condition
  | .insert _ => none
  | .update statement => statement.condition
  | .delete statement => statement.condition

/-- The statement without its condition. -/
def Statement.unfiltered : Statement → Statement
  | .select statement => .select { statement with condition := none }
  | .insert statement => .insert statement
  | .update statement => .update { statement with condition := none }
  | .delete statement => .delete { statement with condition := none }

/-- The criteria of a request, with the table that their columns refer to. -/
def Request.filter? : Request → Option (Table × Criteria)
  | .select request => some (request.table, request.criteria)
  | .insert _ => none
  | .update request => some (request.table.unaliased, request.criteria)
  | .delete request => some (request.table.unaliased, request.criteria)

/-- The predicates that a request filters rows by, at any depth of its criteria. -/
def Request.predicates (request : Request) : List Predicate :=
  (request.filter?.map fun filter => filter.2.leaves).getD []

namespace Writer

variable {writer : Writer} {error : Error}

end Writer

namespace Assembler

variable {assembler : Assembler} {start finish : Allocator} {error : Error}

/-- The way in which the generated keys of a statement come back, if it asks for them. -/
def keys (assembler : Assembler) : Statement → Option KeyRetrieval
  | .insert statement =>
      if statement.returning.isEmpty then none else some assembler.dialect.keyRetrieval
  | _ => none

/-- A request is built by assembling its statement and writing it. -/
theorem build_eq (assembler : Assembler) (request : Request) :
    assembler.build request = do
      let (statement, bindings) ← assembler.assemble request
      let fragment ← assembler.writer.statement statement
      return ⟨fragment, bindings, assembler.keys statement⟩ := by
  cases request with
  | select request =>
      simp only [build, buildSelect, assemble]
      cases assembler.assembleSelect request <;> rfl
  | insert request =>
      simp only [build, buildInsert, assemble]
      cases assembler.assembleInsert request <;> rfl
  | update request =>
      simp only [build, buildUpdate, assemble]
      cases assembler.assembleUpdate request <;> rfl
  | delete request =>
      simp only [build, buildDelete, assemble]
      cases assembler.assembleDelete request <;> rfl

open Allocating

/-- Criteria without a predicate make no condition, and others make the condition they map to. -/
theorem mapWhere_condition {table : Table} {criteria : Criteria}
    {outcome : Option Condition × Bindings}
    (succeeds : Succeeds (assembler.mapWhere table criteria) start outcome finish) :
    criteria.leaves = [] ∧ outcome.1 = none ∨
      criteria.leaves ≠ [] ∧ ∃ mapped, outcome.1 = some mapped.condition ∧
        Succeeds ((assembler.mapper table).map criteria) start mapped finish := by
  rw [mapWhere] at succeeds
  split at succeeds
  · rename_i empty
    obtain ⟨rfl, _⟩ := succeeds_pure.mp succeeds
    exact .inl ⟨criteria.isEmpty_iff.mp empty, rfl⟩
  · rename_i nonempty
    obtain ⟨mapped, last, maps, done⟩ := succeeds_bind.mp succeeds
    obtain ⟨rfl, rfl⟩ := succeeds_pure.mp done
    exact .inr ⟨mt criteria.isEmpty_iff.mpr nonempty, mapped, rfl, maps⟩

/-- The condition of an assembled statement comes from the criteria of its request. -/
theorem assemble_condition {request : Request} {statement : Statement} {bindings : Bindings}
    (assembles : assembler.assemble request = .ok (statement, bindings)) :
    request.filter? = none ∧ statement.condition? = none ∨
      ∃ table criteria start tested finish, request.filter? = some (table, criteria) ∧
        Succeeds (assembler.mapWhere table criteria) start (statement.condition?, tested) finish := by
  cases request with
  | insert request =>
      obtain ⟨_, _, same⟩ := map_eq_ok.mp assembles
      cases same
      exact .inl ⟨rfl, rfl⟩
  | select request =>
      obtain ⟨_, assembles, same⟩ := map_eq_ok.mp assembles
      obtain ⟨_, succeeds⟩ := assembler.runFresh_succeeds assembles
      obtain ⟨⟨condition, tested⟩, _, filters, done⟩ := succeeds_bind.mp succeeds
      obtain ⟨rfl, rfl⟩ := succeeds_pure.mp done
      cases same
      exact .inr ⟨_, _, _, tested, _, rfl, filters⟩
  | update request =>
      obtain ⟨_, assembles, same⟩ := map_eq_ok.mp assembles
      obtain ⟨_, succeeds⟩ := assembler.runFresh_succeeds assembles
      obtain ⟨entries, _, _, succeeds⟩ := succeeds_bind.mp succeeds
      obtain ⟨⟨condition, tested⟩, _, filters, done⟩ := succeeds_bind.mp succeeds
      obtain ⟨rfl, rfl⟩ := succeeds_pure.mp done
      cases same
      exact .inr ⟨_, _, _, tested, _, rfl, filters⟩
  | delete request =>
      obtain ⟨_, assembles, same⟩ := map_eq_ok.mp assembles
      obtain ⟨_, succeeds⟩ := assembler.runFresh_succeeds assembles
      obtain ⟨⟨condition, tested⟩, _, filters, done⟩ := succeeds_bind.mp succeeds
      obtain ⟨rfl, rfl⟩ := succeeds_pure.mp done
      cases same
      exact .inr ⟨_, _, _, tested, _, rfl, filters⟩

/-- An error of the converter is passed on, so a converter may report empty criteria that are not. -/
example :
    let converter : Converter := ⟨fun _ _ => .error .emptyCriteria, fun _ _ => .error .emptyCriteria⟩
    let criteria : Criteria := .property "a" (.compare .eq (.int 1))
    let assembler : Assembler := { dialect := .oracle, converter }
    criteria.isEmpty = false ∧
      assembler.build (.delete { table := { name := "t" }, criteria }) = .error .emptyCriteria := by
  exact ⟨rfl, rfl⟩

end Assembler

end BindPlan
