import BindPlan.Proofs.Criteria.Support
import BindPlan.Proofs.Statement.Filtering

/-!
Why requests are refused. Mapping and writing agree on what a dialect can express, so a statement that is
assembled is written, and a request is refused for the reasons alone for which assembly refuses it.
-/

namespace BindPlan

namespace Writer

variable {writer : Writer}

/-- A statement is written where its condition is. -/
theorem statement_of_whereClause {statement : Statement} {clause : Fragment}
    (written : writer.whereClause statement.condition? = .ok clause) :
    ∃ fragment, writer.statement statement = .ok fragment := by
  cases statement with
  | insert statement => exact ⟨_, rfl⟩
  | _ statement => exact ⟨_, bind_eq_ok.mpr ⟨clause, written, rfl⟩⟩

end Writer

namespace Assembler

open Allocating

variable {assembler : Assembler}

/-- An assembled statement is written. -/
theorem statement_of_assemble {request : Request} {statement : Statement} {bindings : Bindings}
    (assembles : assembler.assemble request = .ok (statement, bindings)) :
    ∃ fragment, assembler.writer.statement statement = .ok fragment := by
  have unfiltered (none : statement.condition? = none) :
      ∃ fragment, assembler.writer.statement statement = .ok fragment := by
    apply Writer.statement_of_whereClause
    rw [none, Writer.whereClause]
  rcases assemble_condition assembles with ⟨_, none⟩ | ⟨table, criteria, _, _, _, _, filters⟩
  · exact unfiltered none
  · rcases mapWhere_condition filters with ⟨_, none⟩ | ⟨_, mapped, some, maps⟩
    · exact unfiltered none
    · have supported := Mapper.map_supported maps
      obtain ⟨fragment, written⟩ : ∃ fragment,
          assembler.writer.condition mapped.condition = .ok fragment :=
        Writer.condition_supported supported
      apply Writer.statement_of_whereClause
      dsimp only at some
      rw [some, Writer.whereClause, written]
      rfl

/-- Requests are refused by their assembly alone. -/
theorem build_error_iff (assembler : Assembler) (request : Request) (error : Error) :
    assembler.build request = .error error ↔ assembler.assemble request = .error error := by
  rw [build_eq, bind_eq_error]
  constructor
  · rintro (refused | ⟨⟨statement, bindings⟩, assembles, fails⟩)
    · exact refused
    · obtain ⟨fragment, written⟩ := statement_of_assemble assembles
      dsimp only at fails
      rw [written] at fails
      cases fails
  · exact .inl

/-- Mapping refuses criteria for want of a predicate, or for the first of their predicates that the
dialect or the converter refuses. A range is mapped as if its bounds were counted, so only a converter can
say that there are not two of them. What mapping gives is written in its dialect, so requests are refused by
their assembly alone. -/
theorem build_refused :
    (∀ (mapper : Mapper) (criteria : Criteria) (start : Allocator),
      let outcome := ((mapper.map criteria).run.run start).1
      (∀ error, outcome = .error error ↔
        criteria.leaves = [] ∧ error = .emptyCriteria ∨
          criteria.leaves.findSome? mapper.refusal? = some error) ∧
        (∀ predicate ∈ criteria.leaves, ∀ negated low high,
          predicate.test = .between negated low high →
            mapper.mapPredicate predicate = mapper.mapBounds predicate negated) ∧
        (∀ name expected actual, outcome = .error (.bindingArity name expected actual) →
          mapper.converter.Reports (.bindingArity name expected actual)) ∧
        (mapper.converter.RejectsByConversion →
          ∀ name expected actual, outcome ≠ .error (.bindingArity name expected actual)) ∧
        ∀ mapped, outcome = .ok mapped → ∀ options : WriteOptions, ∃ fragment,
          (Writer.mk mapper.dialect options).condition mapped.condition = .ok fragment) ∧
    ∀ (assembler : Assembler) (request : Request) (error : Error),
      assembler.build request = .error error ↔ assembler.assemble request = .error error := by
  refine ⟨fun mapper criteria start => ⟨?_, ?_, ?_, ?_, ?_⟩, build_error_iff⟩
  · exact mapper.map_error_iff criteria start
  · intro predicate _ negated low high asked
    exact Mapper.mapPredicate_between asked
  · intro name expected actual refused
    exact Mapper.reports_of_map_bindingArity refused
  · intro rejects name expected actual refused
    exact rejects.not_reports_bindingArity name expected actual
      (Mapper.reports_of_map_bindingArity refused)
  · intro mapped maps options
    have succeeds : Succeeds (mapper.map criteria) start mapped _ := Prod.ext maps rfl
    have supported : ∀ test ∈ mapped.condition.tests,
        (Writer.mk mapper.dialect options).dialect.Supports test := Mapper.map_supported succeeds
    exact Writer.condition_supported supported

/-- The second bound of a range in a group is refused before the containment behind the group is. The
containment alone is mapped for a dialect that compares arrays, and written there. -/
theorem build_refused_bounds :
    let containment : Predicate := { property := "c", test := .contains (.list [.int 1, .null]) }
    let criteria : Criteria :=
      .extend (.extend (.property "a" (.isIn true [])) .or
        (.group [.empty, .property "b" (.between true (.int 1) (.int 7))])) .and
        (.predicate containment)
    let metadata : Metadata := .ofList [("b", "b", .bool)]
    let mapper (dialect : Dialect) : Mapper := ⟨dialect, .standard, metadata, { name := "t" }⟩
    let request : Request := .delete { table := { name := "t" }, criteria }
    let assembler : Assembler := { dialect := .mysql, metadata }
    let start := Dialect.postgres.markerStyle.allocator
    let refusal : Error := .conversion (.notBoolean 7)
    criteria.leaves.findSome? (mapper .mysql).refusal? = some refusal ∧
      (((mapper .mysql).map criteria).run.run start).1 = .error refusal ∧
      (∀ name expected actual, (((mapper .mysql).map criteria).run.run start).1 ≠
        .error (.bindingArity name expected actual)) ∧
      assembler.build request = .error refusal ∧
      ∃ mapped, (((mapper .postgres).map (.start (.predicate containment))).run.run start).1 =
          .ok mapped ∧
        ∃ fragment, (Writer.mk .postgres { quoteIdentifiers := true }).condition mapped.condition =
          .ok fragment := by
  intro containment criteria metadata mapper request assembler start refusal
  have reported : criteria.leaves.findSome? (mapper .mysql).refusal? = some refusal := by rfl
  have assembles : assembler.assemble request = .error refusal := by rfl
  obtain ⟨refused, _, _, counted, _⟩ := build_refused.1 (mapper .mysql) criteria start
  obtain ⟨_, _, _, _, written⟩ :=
    build_refused.1 (mapper .postgres) (.start (.predicate containment)) start
  have maps : (((mapper .postgres).map (.start (.predicate containment))).run.run start).1 =
      .ok ⟨.test (.contains (.column ⟨some "t", "c"⟩) (.marker ⟨"$1", .index 0, 0⟩)),
        [⟨⟨"$1", .index 0, 0⟩, .value (.array [.int 1, .null])⟩]⟩ := by decide +kernel
  exact ⟨reported, (refused refusal).mpr (.inr reported),
    counted Converter.standard_rejectsByConversion,
    (build_refused.2 assembler request refusal).mpr assembles, _, maps, written _ maps _⟩

end Assembler

end BindPlan
