import BindPlan.Proofs.Condition.Markers
import BindPlan.Statement.Writer

namespace BindPlan

namespace Writer

/-- The markers of a WHERE clause are those of its condition. -/
theorem markers_whereClause {writer : Writer} {condition : Option Condition} {fragment : Fragment}
    (written : writer.whereClause condition = .ok fragment) :
    fragment.markers = (condition.map Condition.markers).getD [] := by
  cases condition with
  | none =>
      cases written
      rfl
  | some condition =>
      obtain ⟨text, tested, rfl⟩ := map_eq_ok.mp written
      rw [Fragment.markers_append, Fragment.markers_ofText, List.nil_append,
        Condition.markers_written tested]
      rfl

variable (writer : Writer)

theorem insert_written (statement : Statement.Insert) :
    (writer.insert statement).sql =
        "INSERT INTO " ++ writer.table statement.table
          ++ " (" ++ ", ".intercalate (statement.columns.map writer.bareColumn) ++ ")"
          ++ writer.outputClause statement.returning
          ++ " VALUES (" ++ (writer.expressions statement.values).sql ++ ")"
          ++ writer.returningClause statement.returning ∧
      (writer.insert statement).markers = statement.values.flatMap Expression.markers := by
  constructor
  · rw [Writer.insert, Fragment.sql_append, Fragment.sql_append, Fragment.sql_ofText,
      Fragment.sql_ofText]
    simp only [String.append_assoc]
  · rw [Writer.insert, Fragment.markers_append, Fragment.markers_append, Fragment.markers_ofText,
      Fragment.markers_ofText, markers_expressions, List.append_nil, List.nil_append]

theorem update_written {statement : Statement.Update} {fragment : Fragment}
    (written : writer.update statement = .ok fragment) :
    ∃ clause, writer.whereClause statement.condition = .ok clause ∧
      fragment.sql = "UPDATE " ++ writer.table statement.table ++ " SET "
        ++ ", ".intercalate (statement.assignments.map fun assignment =>
          writer.bareColumn assignment.1 ++ " = " ++ (writer.expression assignment.2).sql)
        ++ clause.sql ∧
      fragment.markers =
        (statement.assignments.flatMap fun assignment => assignment.2.markers)
          ++ clause.markers := by
  obtain ⟨clause, tested, done⟩ := bind_eq_ok.mp written
  cases done
  refine ⟨clause, tested, ?_, ?_⟩
  · have pairs : (statement.assignments.map writer.assignment).map Fragment.sql =
        statement.assignments.map fun assignment =>
          writer.bareColumn assignment.1 ++ " = " ++ (writer.expression assignment.2).sql := by
      rw [List.map_map]
      apply List.map_congr_left
      intro assignment _
      rw [Function.comp_apply, Writer.assignment, Fragment.sql_append, Fragment.sql_ofText]
    rw [Fragment.sql_append, Fragment.sql_append, Fragment.sql_ofText, Fragment.sql_joined, pairs]
  · rw [Fragment.markers_append, Fragment.markers_append, Fragment.markers_ofText,
      Fragment.markers_joined, List.flatMap_map, List.nil_append]
    simp only [Writer.assignment, Fragment.markers_append, Fragment.markers_ofText,
      List.nil_append, markers_expression]

theorem delete_written {statement : Statement.Delete} {fragment : Fragment}
    (written : writer.delete statement = .ok fragment) :
    ∃ clause, writer.whereClause statement.condition = .ok clause ∧
      fragment.sql = "DELETE FROM " ++ writer.table statement.table ++ clause.sql ∧
      fragment.markers = clause.markers := by
  obtain ⟨clause, tested, done⟩ := bind_eq_ok.mp written
  cases done
  refine ⟨clause, tested, ?_, ?_⟩
  · rw [Fragment.sql_append, Fragment.sql_ofText]
  · rw [Fragment.markers_append, Fragment.markers_ofText, List.nil_append]

theorem select_written {statement : Statement.Select} {fragment : Fragment}
    (written : writer.select statement = .ok fragment) :
    ∃ clause, writer.whereClause statement.condition = .ok clause ∧
      fragment.sql = "SELECT " ++ (if statement.distinct then "DISTINCT " else "")
        ++ (if statement.projection.isEmpty then "*"
          else ", ".intercalate (statement.projection.map writer.column))
        ++ " FROM " ++ writer.declaredTable statement.table ++ clause.sql
        ++ writer.orderClause statement.order
        ++ writer.pageClause (!statement.order.isEmpty) statement.page ∧
      fragment.markers = clause.markers := by
  obtain ⟨clause, tested, done⟩ := bind_eq_ok.mp written
  cases done
  refine ⟨clause, tested, ?_, ?_⟩
  · rw [Fragment.sql_append, Fragment.sql_append, Fragment.sql_ofText, Fragment.sql_ofText]
    simp only [String.append_assoc]
  · rw [Fragment.markers_append, Fragment.markers_append, Fragment.markers_ofText,
      Fragment.markers_ofText, List.append_nil, List.nil_append]

end Writer

end BindPlan
