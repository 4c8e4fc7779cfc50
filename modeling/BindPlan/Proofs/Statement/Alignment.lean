import BindPlan.Proofs.Criteria.Emptiness
import BindPlan.Proofs.Criteria.Replay
import BindPlan.Proofs.Statement.Written
import BindPlan.Statement.Assembly
import Mathlib.Data.List.Forall2

namespace BindPlan

namespace Assembler

variable (assembler : Assembler)

/-- The value of an assignment on its way to its marker. -/
def assigned (assignment : Assignment) : Operand :=
  Mapper.stored assembler.converter assignment.value (assembler.assignedType assignment)

/-- The mapping of the criteria on a table. -/
def mapper (table : Table) : Mapper :=
  ⟨assembler.dialect, assembler.converter, assembler.metadata, table⟩

/-- The assignments of a request. -/
def assignments : Request → List Assignment
  | .insert request => request.assignments
  | .update request => request.assignments
  | .select _ | .delete _ => []

/-- The operands of the WHERE clause of a request, one predicate after the other. -/
def filterOperands : Request → List Operand
  | .select request => request.criteria.leaves.flatMap (assembler.mapper request.table).operands
  | .insert _ => []
  | .update request =>
      request.criteria.leaves.flatMap (assembler.mapper request.table.unaliased).operands
  | .delete request =>
      request.criteria.leaves.flatMap (assembler.mapper request.table.unaliased).operands

/-- The text of the column that an assignment sets. -/
def target (assignment : Assignment) : String :=
  assembler.writer.bareColumn (assembler.bareColumn assignment.property)

/-- The text that a request is built into, with the placeholders of the assigned values and the text
of the WHERE clause. -/
def text (placeholders : List String) (clause : String) : Request → String
  | .select request =>
      let columns := request.projection.map fun property =>
        assembler.writer.column (assembler.column request.table property)
      "SELECT " ++ (if request.distinct then "DISTINCT " else "")
        ++ (if columns.isEmpty then "*" else ", ".intercalate columns)
        ++ " FROM " ++ assembler.writer.declaredTable request.table ++ clause
        ++ assembler.writer.orderClause (request.sort.map (assembler.orderKey request.table))
        ++ assembler.writer.pageClause (!request.sort.isEmpty) request.page
  | .insert request =>
      let returning := request.returning.map assembler.bareColumn
      "INSERT INTO " ++ assembler.writer.table request.table
        ++ " (" ++ ", ".intercalate (request.assignments.map assembler.target) ++ ")"
        ++ assembler.writer.outputClause returning
        ++ " VALUES (" ++ ", ".intercalate placeholders ++ ")"
        ++ assembler.writer.returningClause returning
  | .update request =>
      let pairs := List.zipWith (fun assignment placeholder =>
        assembler.target assignment ++ " = " ++ placeholder) request.assignments placeholders
      "UPDATE " ++ assembler.writer.table request.table
        ++ " SET " ++ ", ".intercalate pairs ++ clause
  | .delete request => "DELETE FROM " ++ assembler.writer.table request.table ++ clause

/-- The text of a built statement with its bindings, those of the assignments in front of those of the
WHERE clause. -/
structure Layout (request : Request) (prepared : Prepared) (set tested : Bindings)
    (clause : Fragment) : Prop where
  bindings : prepared.bindings = set ++ tested
  assigned : List.Forall₂ Operand.Binds ((assignments request).map assembler.assigned) set
  filtered : List.Forall₂ Operand.Binds (assembler.filterOperands request) tested
  text : prepared.sql =
    assembler.text ((Bindings.markers set).map Marker.placeholder) clause.sql request
  written : ∃ condition, assembler.writer.whereClause condition = .ok clause
  inClause : clause.markers = Bindings.markers tested
  inText : prepared.fragment.markers = prepared.bindings.markers
  handed : ∃ finish, assembler.dialect.markerStyle.allocator.Hands prepared.bindings.markers finish

theorem runFresh_succeeds {A : Type} {action : Allocating A} {value : A}
    (runs : assembler.runFresh action = .ok value) :
    ∃ finish, Allocating.Succeeds action assembler.dialect.markerStyle.allocator value finish := by
  rw [runFresh] at runs
  refine ⟨(action.run.run assembler.dialect.markerStyle.allocator).2, ?_⟩
  rw [Allocating.Succeeds, ← runs]
  rfl

variable {assembler} {start finish : Allocator}

open Allocating

theorem mapWhere_succeeds {table : Table} {criteria : Criteria}
    {outcome : Option Condition × Bindings}
    (succeeds : Succeeds (assembler.mapWhere table criteria) start outcome finish) :
    (outcome.1.map Condition.markers).getD [] = outcome.2.markers ∧
      start.Hands outcome.2.markers finish ∧
      List.Forall₂ Operand.Binds (criteria.leaves.flatMap (assembler.mapper table).operands)
        outcome.2 := by
  rw [mapWhere] at succeeds
  split at succeeds
  · rename_i empty
    obtain ⟨rfl, rfl⟩ := succeeds_pure.mp succeeds
    rw [criteria.isEmpty_iff.mp empty]
    exact ⟨rfl, .none start, .nil⟩
  · obtain ⟨mapped, last, maps, done⟩ := succeeds_bind.mp succeeds
    obtain ⟨rfl, rfl⟩ := succeeds_pure.mp done
    exact Mapper.map_binds maps

theorem assign_succeeds {assignment : Assignment} {entry : Column × Binding}
    (succeeds : Succeeds (assembler.assign assignment) start entry finish) :
    (assembler.bareColumn assignment.property = entry.1 ∧
        (assembler.assigned assignment).Binds entry.2) ∧
      start.Hands [entry.2.marker] finish := by
  obtain ⟨binding, last, binds, done⟩ := succeeds_bind.mp succeeds
  obtain ⟨rfl, rfl⟩ := succeeds_pure.mp done
  obtain ⟨binds, hands⟩ := Mapper.bind_succeeds binds
  exact ⟨⟨rfl, binds⟩, hands⟩

/-- Each assignment has its column, and its binding receives the converted value. -/
theorem assignAll_succeeds {kind : AssignmentKind} {assignments : List Assignment}
    {entries : List (Column × Binding)}
    (succeeds : Succeeds (assembler.assignAll kind assignments) start entries finish) :
    assignments.map (fun assignment => assembler.bareColumn assignment.property) =
        entries.map Prod.fst ∧
      List.Forall₂ Operand.Binds (assignments.map assembler.assigned) (entries.map Prod.snd) ∧
      start.Hands (Bindings.markers (entries.map Prod.snd)) finish := by
  rw [assignAll] at succeeds
  split at succeeds
  · obtain ⟨_, _, fails, _⟩ := succeeds_bind.mp succeeds
    exact (not_succeeds_throw fails).elim
  · obtain ⟨keeps, hands⟩ := mapM_hands assign_succeeds succeeds
    refine ⟨?_, ?_, ?_⟩
    · rw [← List.forall₂_eq_eq_eq, List.forall₂_map_left_iff, List.forall₂_map_right_iff]
      exact keeps.imp fun _ _ kept => kept.1
    · rw [List.forall₂_map_left_iff, List.forall₂_map_right_iff]
      exact keeps.imp fun _ _ kept => kept.2
    · rw [← List.map_eq_flatMap] at hands
      rw [Bindings.markers, List.map_map]
      exact hands

theorem entries_markers (entries : List (Column × Binding)) :
    (entries.flatMap fun entry => (Expression.marker entry.2.marker).markers) =
      Bindings.markers (entries.map Prod.snd) := by
  rw [Bindings.markers, List.map_map, List.map_eq_flatMap]
  rfl

theorem entries_sql (entries : List (Column × Binding)) :
    Fragment.sql (assembler.writer.expressions
        (entries.map fun entry => .marker entry.2.marker)) =
      ", ".intercalate ((Bindings.markers (entries.map Prod.snd)).map Marker.placeholder) := by
  rw [Writer.expressions, Fragment.sql_joined, List.map_map, List.map_map, Bindings.markers,
    List.map_map, List.map_map]
  congr 1

theorem entries_targets {assignments : List Assignment} {entries : List (Column × Binding)}
    (columns : assignments.map (fun assignment => assembler.bareColumn assignment.property) =
      entries.map Prod.fst) :
    (entries.map Prod.fst).map assembler.writer.bareColumn = assignments.map assembler.target := by
  rw [← columns, List.map_map]
  rfl

theorem entries_pairs {assignments : List Assignment} {entries : List (Column × Binding)}
    (columns : assignments.map (fun assignment => assembler.bareColumn assignment.property) =
      entries.map Prod.fst) :
    (entries.map fun entry => (entry.1, Expression.marker entry.2.marker)).map
        (fun pair => assembler.writer.bareColumn pair.1 ++ " = " ++
          (assembler.writer.expression pair.2).sql) =
      List.zipWith (fun assignment placeholder => assembler.target assignment ++ " = " ++ placeholder)
        assignments ((Bindings.markers (entries.map Prod.snd)).map Marker.placeholder) := by
  have pairs : List.zipWith (fun target placeholder => target ++ " = " ++ placeholder)
      (assignments.map assembler.target)
      ((Bindings.markers (entries.map Prod.snd)).map Marker.placeholder) =
        entries.map fun entry =>
          assembler.writer.bareColumn entry.1 ++ " = " ++ entry.2.marker.placeholder := by
    rw [← entries_targets columns, Bindings.markers, List.map_map, List.map_map, List.map_map,
      List.zipWith_map, List.zipWith_self]
    rfl
  rw [List.zipWith_map_left] at pairs
  rw [pairs, List.map_map]
  apply List.map_congr_left
  intro entry _
  exact congrArg (_ ++ ·) (Fragment.sql_ofMarker entry.2.marker)

theorem buildInsert_layout {request : Request.Insert} {prepared : Prepared}
    (built : assembler.buildInsert request = .ok prepared) :
    ∃ set tested clause, assembler.Layout (.insert request) prepared set tested clause := by
  obtain ⟨⟨statement, bindings⟩, assembles, done⟩ := bind_eq_ok.mp built
  cases done
  obtain ⟨_, succeeds⟩ := assembler.runFresh_succeeds assembles
  obtain ⟨entries, _, assigns, done⟩ := succeeds_bind.mp succeeds
  obtain ⟨same, rfl⟩ := succeeds_pure.mp done
  cases same
  obtain ⟨columns, binds, hands⟩ := assignAll_succeeds assigns
  obtain ⟨text, inText⟩ := assembler.writer.insert_written
    { table := request.table, columns := entries.map Prod.fst
      values := entries.map fun entry => .marker entry.2.marker
      returning := request.returning.map assembler.bareColumn }
  simp only [entries_targets columns, entries_sql, List.flatMap_map, entries_markers] at text inText
  refine ⟨entries.map Prod.snd, [], [], ?_⟩
  exact {
    bindings := (List.append_nil _).symm
    assigned := binds
    filtered := .nil
    text := text
    written := ⟨none, rfl⟩
    inClause := rfl
    inText := inText
    handed := ⟨_, hands⟩ }

theorem buildUpdate_layout {request : Request.Update} {prepared : Prepared}
    (built : assembler.buildUpdate request = .ok prepared) :
    ∃ set tested clause, assembler.Layout (.update request) prepared set tested clause := by
  obtain ⟨⟨statement, bindings⟩, assembles, done⟩ := bind_eq_ok.mp built
  obtain ⟨fragment, written, done⟩ := bind_eq_ok.mp done
  cases done
  obtain ⟨_, succeeds⟩ := assembler.runFresh_succeeds assembles
  obtain ⟨entries, _, assigns, succeeds⟩ := succeeds_bind.mp succeeds
  obtain ⟨⟨condition, tested⟩, _, filters, done⟩ := succeeds_bind.mp succeeds
  obtain ⟨same, rfl⟩ := succeeds_pure.mp done
  cases same
  obtain ⟨columns, binds, hands⟩ := assignAll_succeeds assigns
  obtain ⟨markers, handsBehind, bindsBehind⟩ := mapWhere_succeeds filters
  obtain ⟨clause, tests, text, inText⟩ := assembler.writer.update_written written
  have inClause := (Writer.markers_whereClause tests).trans markers
  simp only [entries_pairs columns, List.flatMap_map, entries_markers] at text inText
  refine ⟨entries.map Prod.snd, tested, clause, ?_⟩
  have plan : Bindings.markers (entries.map Prod.snd ++ tested) =
      Bindings.markers (entries.map Prod.snd) ++ Bindings.markers tested := List.map_append
  exact {
    bindings := rfl
    assigned := binds
    filtered := bindsBehind
    text := text
    written := ⟨_, tests⟩
    inClause := inClause
    inText := by rw [inText, inClause, plan]
    handed := ⟨_, plan ▸ hands.append handsBehind⟩ }

theorem buildDelete_layout {request : Request.Delete} {prepared : Prepared}
    (built : assembler.buildDelete request = .ok prepared) :
    ∃ set tested clause, assembler.Layout (.delete request) prepared set tested clause := by
  obtain ⟨⟨statement, tested⟩, assembles, done⟩ := bind_eq_ok.mp built
  obtain ⟨fragment, written, done⟩ := bind_eq_ok.mp done
  cases done
  obtain ⟨_, succeeds⟩ := assembler.runFresh_succeeds assembles
  obtain ⟨⟨condition, _⟩, _, filters, done⟩ := succeeds_bind.mp succeeds
  obtain ⟨same, rfl⟩ := succeeds_pure.mp done
  cases same
  obtain ⟨markers, hands, binds⟩ := mapWhere_succeeds filters
  obtain ⟨clause, tests, text, inText⟩ := assembler.writer.delete_written written
  have inClause := (Writer.markers_whereClause tests).trans markers
  refine ⟨[], tested, clause, ?_⟩
  exact {
    bindings := rfl
    assigned := .nil
    filtered := binds
    text := text
    written := ⟨_, tests⟩
    inClause := inClause
    inText := inText.trans inClause
    handed := ⟨_, hands⟩ }

theorem buildSelect_layout {request : Request.Select} {prepared : Prepared}
    (built : assembler.buildSelect request = .ok prepared) :
    ∃ set tested clause, assembler.Layout (.select request) prepared set tested clause := by
  obtain ⟨⟨statement, tested⟩, assembles, done⟩ := bind_eq_ok.mp built
  obtain ⟨fragment, written, done⟩ := bind_eq_ok.mp done
  cases done
  obtain ⟨_, succeeds⟩ := assembler.runFresh_succeeds assembles
  obtain ⟨⟨condition, _⟩, _, filters, done⟩ := succeeds_bind.mp succeeds
  obtain ⟨same, rfl⟩ := succeeds_pure.mp done
  cases same
  obtain ⟨markers, hands, binds⟩ := mapWhere_succeeds filters
  obtain ⟨clause, tests, text, inText⟩ := assembler.writer.select_written written
  have inClause := (Writer.markers_whereClause tests).trans markers
  refine ⟨[], tested, clause, ?_⟩
  exact {
    bindings := rfl
    assigned := .nil
    filtered := binds
    text := by
      refine text.trans ?_
      unfold Assembler.text
      simp only [List.isEmpty_map, List.map_map, Function.comp_def]
    written := ⟨_, tests⟩
    inClause := inClause
    inText := inText.trans inClause
    handed := ⟨_, hands⟩ }

theorem build_layout {request : Request} {prepared : Prepared}
    (built : assembler.build request = .ok prepared) :
    ∃ set tested clause, assembler.Layout request prepared set tested clause := by
  cases request with
  | select request => exact buildSelect_layout built
  | insert request => exact buildInsert_layout built
  | update request => exact buildUpdate_layout built
  | delete request => exact buildDelete_layout built

/-- The text of a built statement is its literal segments interleaved with the placeholders of its
bindings, which are numbered from zero and bind one target each. The values of the assignments come
first, each at the column of its assignment, and the operands of the WHERE clause follow. -/
theorem build_aligned (assembler : Assembler) (request : Request) (prepared : Prepared)
    (built : assembler.build request = .ok prepared) :
    ∃ set tested clause, assembler.Layout request prepared set tested clause ∧
      prepared.fragment.literals.length = prepared.bindings.length + 1 ∧
      prepared.sql = Fragment.interleave prepared.fragment.literals
        (prepared.bindings.markers.map Marker.placeholder) ∧
      prepared.bindings.markers.map Marker.ordinal = List.range prepared.bindings.length ∧
      (prepared.bindings.markers.map Marker.target).Nodup ∧
      (assembler.dialect = .sqlserver ∨ assembler.dialect = .oracle →
        ∃ names : List String,
          prepared.bindings.markers.map Marker.target = names.map Target.name ∧ names.Nodup) := by
  obtain ⟨set, tested, clause, layout⟩ := build_layout built
  obtain ⟨finish, hands⟩ := layout.handed
  have long : prepared.bindings.markers.length = prepared.bindings.length := List.length_map _
  refine ⟨set, tested, clause, layout, ?_, ?_, ?_, hands.targets.1, ?_⟩
  · rw [Fragment.length_literals, layout.inText, long]
  · rw [← layout.inText]
    exact Fragment.sql_eq_interleave prepared.fragment
  · rw [hands.ordinals_fresh, long]
  · rintro (dialect | dialect)
    · exact hands.named (by rw [dialect]; rfl)
    · exact hands.named (by rw [dialect]; rfl)

/-- The assigned values stand in front of the operand of the WHERE clause, whose marker takes a name of
its own. -/
theorem build_aligned_update :
    let assembler : Assembler := { dialect := .sqlserver }
    let request : Request := .update
      { table := { name := "t" }, assignments := [⟨"a", .int 1, none⟩, ⟨"b", .null, some .text⟩]
        criteria := .property "a" (.compare .eq (.int 2)) }
    let marker (name : String) (ordinal : Nat) : Marker := ⟨"@" ++ name, .name name, ordinal⟩
    let prepared : Prepared := ⟨[.text "UPDATE t SET ", .text "a = ", .slot (marker "a" 0),
        .text ", ", .text "b = ", .slot (marker "b" 1), .text " WHERE ", .text "a", .text " = ",
        .slot (marker "a_2" 2)],
      [⟨marker "a" 0, .value (.int 1)⟩, ⟨marker "b" 1, .null .text⟩,
        ⟨marker "a_2" 2, .value (.int 2)⟩], none⟩
    assembler.build request = .ok prepared ∧
      ∃ set tested clause, assembler.Layout request prepared set tested clause ∧
        prepared.fragment.literals.length = 3 + 1 ∧
        prepared.sql = Fragment.interleave prepared.fragment.literals
          (prepared.bindings.markers.map Marker.placeholder) ∧
        prepared.bindings.markers.map Marker.ordinal = List.range 3 ∧
        (prepared.bindings.markers.map Marker.target).Nodup ∧
        (assembler.dialect = .sqlserver ∨ assembler.dialect = .oracle →
          ∃ names : List String,
            prepared.bindings.markers.map Marker.target = names.map Target.name ∧
              names.Nodup) := by
  intro assembler request marker prepared
  have built : assembler.build request = .ok prepared := by decide +kernel
  exact ⟨built, build_aligned assembler request prepared built⟩

end Assembler

end BindPlan
