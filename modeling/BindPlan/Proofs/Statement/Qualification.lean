import BindPlan.Proofs.Statement.Landmarks
import BindPlan.Proofs.Statement.Refusal

namespace BindPlan

/-- The condition of the predicate reads its column. A list without values is told without it. -/
def Predicate.readsColumn (predicate : Predicate) : Bool :=
  match predicate.test with
  | .isIn _ [] => false
  | _ => true

theorem Expression.columns_markers {A : Type} (items : List A) (marker : A → Marker) :
    (items.map fun item => Expression.marker (marker item)).flatMap Expression.columns = [] := by
  induction items with
  | nil => rfl
  | cons item rest inductionHypothesis => exact inductionHypothesis

namespace Mapper

open Allocating

variable {mapper : Mapper}

/-- The column that a predicate is about. -/
def tested (mapper : Mapper) (predicate : Predicate) : Column :=
  mapper.table.column (mapper.metadata.columnName predicate.property)

/-- The condition of a predicate reads no column but that of its property. -/
theorem Tests.columns {predicate : Predicate} {test : Test} (tests : mapper.Tests predicate test) :
    (predicate.condition test).tests.flatMap Test.columns =
      ([predicate].filter Predicate.readsColumn).map mapper.tested := by
  obtain ⟨property, asked, ignoreCase⟩ := predicate
  cases asked with
  | compare comparison value =>
      obtain ⟨marker, rfl⟩ := tests
      split <;> rfl
  | contains value =>
      obtain ⟨marker, rfl⟩ := tests
      rfl
  | isIn negated values =>
      obtain ⟨markers, _, rfl⟩ := tests
      have operands := Expression.columns_markers markers id
      cases values with
      | nil => cases negated <;> rfl
      | cons value values =>
          cases negated <;> exact (List.append_nil _).trans (congrArg (List.cons _) operands)
  | between negated low high =>
      obtain ⟨low, high, rfl⟩ := tests
      cases negated <;> rfl
  | _ =>
      cases tests
      rfl

theorem columns_parts {predicates : List Predicate} {parts : List Mapped}
    (maps : List.Forall₂ (fun predicate part => ∃ test, mapper.Maps predicate test part)
      predicates parts) :
    (parts.flatMap fun part => part.condition.tests.flatMap Test.columns) =
      (predicates.filter Predicate.readsColumn).map mapper.tested := by
  induction maps with
  | nil => rfl
  | @cons predicate part predicates parts head rest inductionHypothesis =>
      obtain ⟨test, maps⟩ := head
      rw [List.flatMap_cons, maps.condition, maps.tests.columns, inductionHypothesis,
        ← List.map_append, ← List.filter_append, List.singleton_append]

theorem columns_respects :
    Criteria.Respects (fun mapped : Mapped => mapped.condition.tests.flatMap Test.columns)
      Mapped.join Mapped.nested Connective.concat id := by
  refine ⟨fun connective first second => ?_, fun _ => rfl⟩
  cases connective <;> exact List.flatMap_append

/-- Mapped criteria read the columns of their predicates in order, at any depth of their groups. -/
theorem map_columns {criteria : Criteria} {mapped : Mapped} {start finish : Allocator}
    (maps : Succeeds (mapper.map criteria) start mapped finish) :
    mapped.condition.tests.flatMap Test.columns =
      (criteria.leaves.filter Predicate.readsColumn).map mapper.tested := by
  obtain ⟨parts, runs, replayed⟩ := map_succeeds maps
  have each := (mapM_hands mapPredicate_succeeds runs).1
  rw [← columns_parts each]
  exact rows_replay columns_respects each.length_eq.symm replayed

end Mapper

namespace Assembler

open Allocating

variable (assembler : Assembler)

/-- The assembler that writes identifiers in quotes or plain. -/
def quoting (quoted : Bool) : Assembler :=
  { assembler with options := { assembler.options with quoteIdentifiers := quoted } }

/-- The column of a property behind a reference of its table. -/
def qualified (reference property : String) : Landmark :=
  .column ⟨some reference, assembler.metadata.columnName property⟩

/-- The column of a property without a reference. -/
def unqualified (property : String) : Landmark :=
  .column { name := assembler.metadata.columnName property }

/-- The WHERE clause of criteria, each column behind the reference. -/
def filterLandmarks (reference : String) (criteria : Criteria) : List Landmark :=
  if criteria.leaves.isEmpty then []
  else .clause " WHERE " :: (criteria.leaves.filter Predicate.readsColumn).map fun predicate =>
    assembler.qualified reference predicate.property

/-- The ORDER BY clause of sort keys, each column behind the reference. A column whose nulls are placed
by a flag stands there twice. -/
def sortLandmarks (reference : String) (sort : List Order) : List Landmark :=
  if sort.isEmpty then []
  else .clause " ORDER BY " :: sort.flatMap fun order =>
    let column := assembler.qualified reference order.property
    if assembler.dialect.ordersNulls || order.nulls = .native then [column] else [column, column]

/-- The clause that asks for generated keys, if the dialect has them asked for in this way. -/
def keyLandmarks (keyword : String) (retrieval : KeyRetrieval) (returning : List String) :
    List Landmark :=
  if returning.isEmpty || assembler.dialect.keyRetrieval != retrieval then []
  else .clause keyword :: returning.map assembler.unqualified

/-- The landmarks of the statement that a request asks for. The reference of each column is stated for
each kind of statement, next to the table that is declared. -/
def landmarks : Request → List Landmark
  | .select request =>
      let reference := request.table.aliasName.getD request.table.name
      .clause "SELECT " :: request.projection.map (assembler.qualified reference)
        ++ .table " FROM " request.table :: assembler.filterLandmarks reference request.criteria
        ++ assembler.sortLandmarks reference request.sort
  | .insert request =>
      .table "INSERT INTO " { name := request.table.name }
        :: request.assignments.map (fun assignment => assembler.unqualified assignment.property)
        ++ assembler.keyLandmarks " OUTPUT " .output request.returning
        ++ .clause " VALUES (" :: assembler.keyLandmarks " RETURNING " .returning request.returning
  | .update request =>
      .table "UPDATE " { name := request.table.name } :: .clause " SET "
        :: request.assignments.map (fun assignment => assembler.unqualified assignment.property)
        ++ assembler.filterLandmarks request.table.name request.criteria
  | .delete request =>
      .table "DELETE FROM " { name := request.table.name }
        :: assembler.filterLandmarks request.table.name request.criteria

variable {assembler} {start finish : Allocator}

theorem mapWhere_landmarks {table : Table} {criteria : Criteria}
    {outcome : Option Condition × Bindings}
    (succeeds : Succeeds (assembler.mapWhere table criteria) start outcome finish) :
    Writer.conditionLandmarks outcome.1 = assembler.filterLandmarks table.reference criteria := by
  rcases mapWhere_condition succeeds with ⟨leaves, absent⟩ | ⟨leaves, mapped, found, maps⟩
  · rw [absent, filterLandmarks, leaves]
    rfl
  · rw [found, filterLandmarks, if_neg (by simpa using leaves), Writer.conditionLandmarks,
      Mapper.map_columns maps, List.map_map]
    rfl

theorem orderLandmarks_orderKey (table : Table) (sort : List Order) :
    Writer.orderLandmarks assembler.dialect (sort.map (assembler.orderKey table)) =
      assembler.sortLandmarks table.reference sort := by
  rw [Writer.orderLandmarks, sortLandmarks, List.isEmpty_map, List.flatMap_map]
  rfl

theorem returnedLandmarks_bareColumn (keyword : String) (retrieval : KeyRetrieval)
    (returning : List String) :
    Writer.returnedLandmarks keyword (assembler.dialect.keyRetrieval == retrieval)
        (returning.map assembler.bareColumn) =
      assembler.keyLandmarks keyword retrieval returning := by
  rw [Writer.returnedLandmarks, keyLandmarks, List.isEmpty_map, List.map_map]
  rfl

/-- The assigned columns carry no reference, and their values are markers. -/
theorem assignAll_landmarks {kind : AssignmentKind} {assignments : List Assignment}
    {entries : List (Column × Binding)}
    (succeeds : Succeeds (assembler.assignAll kind assignments) start entries finish) :
    entries.map (fun entry => Landmark.column { name := entry.1.name }) =
      assignments.map fun assignment => assembler.unqualified assignment.property := by
  have columns := congrArg (List.map fun column : Column => Landmark.column { name := column.name })
    (assignAll_succeeds succeeds).1
  simpa [Function.comp_def, unqualified, bareColumn] using columns.symm

/-- The landmarks of an assembled statement are those that its request asks for. -/
theorem assemble_landmarks {request : Request} {statement : Statement} {bindings : Bindings}
    (assembles : assembler.assemble request = .ok (statement, bindings)) :
    Writer.statementLandmarks assembler.dialect statement = assembler.landmarks request := by
  cases request with
  | select request =>
      obtain ⟨_, assembles, same⟩ := map_eq_ok.mp assembles
      obtain ⟨_, succeeds⟩ := assembler.runFresh_succeeds assembles
      obtain ⟨⟨condition, tested⟩, _, filters, done⟩ := succeeds_bind.mp succeeds
      obtain ⟨rfl, rfl⟩ := succeeds_pure.mp done
      cases same
      have filtered := mapWhere_landmarks filters
      have sorted := assembler.orderLandmarks_orderKey request.table request.sort
      simp only [Writer.statementLandmarks, landmarks, filtered, sorted, List.map_map]
      rfl
  | insert request =>
      obtain ⟨_, assembles, same⟩ := map_eq_ok.mp assembles
      obtain ⟨_, succeeds⟩ := assembler.runFresh_succeeds assembles
      obtain ⟨entries, _, assigns, done⟩ := succeeds_bind.mp succeeds
      obtain ⟨rfl, rfl⟩ := succeeds_pure.mp done
      cases same
      have assigned := assignAll_landmarks assigns
      have values := Expression.columns_markers entries fun entry => entry.2.marker
      simp only [Writer.statementLandmarks, landmarks, returnedLandmarks_bareColumn, values,
        List.map_map, Function.comp_def, assigned, List.map_nil, List.append_assoc, List.cons_append,
        List.nil_append]
      rfl
  | update request =>
      obtain ⟨_, assembles, same⟩ := map_eq_ok.mp assembles
      obtain ⟨_, succeeds⟩ := assembler.runFresh_succeeds assembles
      obtain ⟨entries, _, assigns, succeeds⟩ := succeeds_bind.mp succeeds
      obtain ⟨⟨condition, tested⟩, _, filters, done⟩ := succeeds_bind.mp succeeds
      obtain ⟨rfl, rfl⟩ := succeeds_pure.mp done
      cases same
      have assigned := assignAll_landmarks assigns
      have filtered := mapWhere_landmarks filters
      simp only [Writer.statementLandmarks, landmarks, List.flatMap_map, Expression.columns,
        List.map_nil, ← List.map_eq_flatMap, assigned, filtered]
      rfl
  | delete request =>
      obtain ⟨_, assembles, same⟩ := map_eq_ok.mp assembles
      obtain ⟨_, succeeds⟩ := assembler.runFresh_succeeds assembles
      obtain ⟨⟨condition, tested⟩, _, filters, done⟩ := succeeds_bind.mp succeeds
      obtain ⟨rfl, rfl⟩ := succeeds_pure.mp done
      cases same
      have filtered := mapWhere_landmarks filters
      simp only [Writer.statementLandmarks, landmarks, filtered]
      rfl

theorem assemble_quoting (assembler : Assembler) (quoted : Bool) (request : Request) :
    (assembler.quoting quoted).assemble request = assembler.assemble request := by
  cases request <;> rfl

/-- A statement that is built with qualified columns is its landmarks with neutral text between them,
and remains so in quotes or without them. So all its columns that filter, sort or are selected carry the
reference that its landmarks have for them, and no other column carries one. -/
theorem build_qualified (assembler : Assembler) (request : Request) (prepared : Prepared)
    (qualifies : assembler.options.qualifyColumns = true)
    (built : assembler.build request = .ok prepared) :
    ∃ portions, Frames portions (assembler.landmarks request) ∧
      prepared.sql = assembler.writer.portions portions ∧
      ∀ quoted, ∃ other, (assembler.quoting quoted).build request = .ok other ∧
        other.sql = (assembler.quoting quoted).writer.portions portions := by
  rw [build_eq] at built
  obtain ⟨⟨statement, bindings⟩, assembles, built⟩ := bind_eq_ok.mp built
  obtain ⟨fragment, written, done⟩ := bind_eq_ok.mp built
  cases done
  obtain ⟨portions, frames, spelled⟩ := Writer.shows_statement assembler.dialect statement
  rw [assemble_landmarks assembles] at frames
  refine ⟨portions, frames, spelled _ fragment ⟨rfl, qualifies⟩ written, fun quoted => ?_⟩
  have again : (assembler.quoting quoted).assemble request = .ok (statement, bindings) :=
    (assembler.assemble_quoting quoted request).trans assembles
  obtain ⟨other, writtenAgain⟩ := statement_of_assemble again
  rw [build_eq]
  refine ⟨⟨other, bindings, (assembler.quoting quoted).keys statement⟩, ?_, ?_⟩
  · exact bind_eq_ok.mpr ⟨_, again, bind_eq_ok.mpr ⟨other, writtenAgain, rfl⟩⟩
  · exact spelled _ other ⟨rfl, qualifies⟩ writtenAgain

/-- An alias that an UPDATE does not declare is no reference of its columns, however deep the group that
they stand in. -/
theorem build_qualified_undeclared :
    let criteria : Criteria := .extend (.property "a" (.compare .eq (.int 1))) .or
      (.group [.empty, .ofGroup [.property "b" .isNull, .property "c" (.isIn true [])]])
    let request : Request := .update
      { table := ⟨"t", some "u"⟩, assignments := [{ property := "a", value := .int 2 }], criteria }
    let assembler : Assembler :=
      { dialect := .mysql, metadata := .ofList [("a", "x", .int)]
        options := { qualifyColumns := true } }
    let marker (index : Nat) : Marker := ⟨"?", .index index, index⟩
    let prepared : Prepared := ⟨[.text "UPDATE t SET ", .text "x = ", .slot (marker 0),
      .text " WHERE ", .text "t.x", .text " = ", .slot (marker 1), .text " OR ", .text "(", .text "(",
      .text "t.b", .text " IS NULL", .text " AND ", .text "1", .text " = ", .text "1", .text ")",
      .text ")"], [⟨marker 0, .value (.int 2)⟩, ⟨marker 1, .value (.int 1)⟩], none⟩
    let landmarks : List Landmark := [.table "UPDATE " { name := "t" }, .clause " SET ",
      .column { name := "x" }, .clause " WHERE ", .column ⟨some "t", "x"⟩, .column ⟨some "t", "b"⟩]
    assembler.build request = .ok prepared ∧ assembler.landmarks request = landmarks ∧
      ∃ portions, Frames portions landmarks ∧
        prepared.sql = assembler.writer.portions portions ∧
        ∀ quoted, ∃ other, (assembler.quoting quoted).build request = .ok other ∧
          other.sql = (assembler.quoting quoted).writer.portions portions := by
  intro criteria request assembler marker prepared landmarks
  have built : assembler.build request = .ok prepared := by rfl
  have asked : assembler.landmarks request = landmarks := by rfl
  exact ⟨built, asked, asked ▸ build_qualified assembler request prepared rfl built⟩

end Assembler

end BindPlan
