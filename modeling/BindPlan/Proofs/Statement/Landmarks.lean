import BindPlan.Proofs.Dialect.Pagination
import BindPlan.Proofs.Statement.Written

namespace BindPlan

/-- What a reader of a statement finds in its text: the keyword that a clause starts with, a keyword with
the table behind it and the alias that is declared for the table, or a column with the reference of a
table in front of it. -/
inductive Landmark where
  | clause (keyword : String)
  | table (keyword : String) (table : Table)
  | column (column : Column)
deriving DecidableEq, Repr

/-- A landmark, a marker or the text between them. -/
inductive Portion where
  | plain (content : String)
  | slot (marker : Marker)
  | landmark (landmark : Landmark)

namespace Portion

def landmark? : Portion → Option Landmark
  | plain _ | slot _ => none
  | landmark found => some found

/-- Plain text refers to no table. Its only dot stands behind the row that an INSERT gives back. -/
def Neutral : Portion → Prop
  | plain content => content = "INSERTED." ∨ '.' ∉ content.toList
  | slot _ | landmark _ => True

end Portion

/-- The portions hold the landmarks in order, and no reference of a table beside them. -/
structure Frames (portions : List Portion) (landmarks : List Landmark) : Prop where
  inOrder : portions.filterMap Portion.landmark? = landmarks
  neutral : ∀ portion ∈ portions, portion.Neutral

namespace Frames

theorem singleton {portion : Portion} (neutral : portion.Neutral) :
    Frames [portion] portion.landmark?.toList := by
  refine ⟨?_, by simpa using neutral⟩
  cases found : portion.landmark? <;> simp [found]

theorem append {first second : List Portion} {landmarks others : List Landmark}
    (frames : Frames first landmarks) (next : Frames second others) :
    Frames (first ++ second) (landmarks ++ others) where
  inOrder := by rw [List.filterMap_append, frames.inOrder, next.inOrder]
  neutral portion member := by
    rcases List.mem_append.mp member with inFirst | inSecond
    · exact frames.neutral portion inFirst
    · exact next.neutral portion inSecond

end Frames

theorem undotted_toString (integer : Int) : '.' ∉ (toString integer).toList := by
  cases integer with
  | ofNat number =>
      change '.' ∉ (toString number).toList
      simp [Text.not_mem_toDigits]
  | negSucc number =>
      change '.' ∉ ("-" ++ toString number.succ).toList
      simp [Text.not_mem_toDigits]

/-- The text of a landmark. A column without a reference is never written behind one. -/
def Writer.landmark (writer : Writer) : Landmark → String
  | .clause keyword => keyword
  | .table keyword table =>
      match table.aliasName with
      | some aliasName =>
          keyword ++ writer.identifier table.name ++ " " ++ writer.identifier aliasName
      | none => keyword ++ writer.identifier table.name
  | .column column =>
      match column.table with
      | some reference => writer.identifier reference ++ "." ++ writer.identifier column.name
      | none => writer.identifier column.name

def Writer.portion (writer : Writer) : Portion → String
  | .plain content => content
  | .slot marker => marker.placeholder
  | .landmark found => writer.landmark found

/-- The text that portions make up. -/
def Writer.portions (writer : Writer) (portions : List Portion) : String :=
  String.join (portions.map writer.portion)

theorem Writer.portions_singleton (writer : Writer) (portion : Portion) :
    writer.portions [portion] = writer.portion portion := by
  simp [portions, String.join_cons]

theorem Writer.portions_append (writer : Writer) (first second : List Portion) :
    writer.portions (first ++ second) = writer.portions first ++ writer.portions second := by
  apply String.toList_inj.mp
  simp [portions]

/-- The writers of a dialect that qualify columns, with quotes or without. -/
structure Writer.Qualifies (writer : Writer) (dialect : Dialect) : Prop where
  dialect : writer.dialect = dialect
  columns : writer.options.qualifyColumns = true

/-- The text shows the landmarks in order. What stands between them is the same for all writers. -/
def Shows (dialect : Dialect) (text : Writer → String) (landmarks : List Landmark) : Prop :=
  ∃ portions, Frames portions landmarks ∧
    ∀ writer : Writer, writer.Qualifies dialect → text writer = writer.portions portions

/-- What is written shows the landmarks in order, wherever it can be written. -/
def ShowsWritten (dialect : Dialect) (write : Writer → Except Error Fragment)
    (landmarks : List Landmark) : Prop :=
  ∃ portions, Frames portions landmarks ∧
    ∀ (writer : Writer) (fragment : Fragment), writer.Qualifies dialect →
      write writer = .ok fragment → fragment.sql = writer.portions portions

namespace Shows

variable {dialect : Dialect} {text next : Writer → String} {landmarks others : List Landmark}

theorem plain (content : String)
    (neutral : content = "INSERTED." ∨ '.' ∉ content.toList) :
    Shows dialect (fun _ => content) [] :=
  ⟨[.plain content], .singleton neutral, fun writer _ =>
    (writer.portions_singleton (.plain content)).symm⟩

theorem slot (marker : Marker) : Shows dialect (fun _ => marker.placeholder) [] :=
  ⟨[.slot marker], .singleton trivial, fun writer _ =>
    (writer.portions_singleton (.slot marker)).symm⟩

theorem landmark (found : Landmark) : Shows dialect (fun writer => writer.landmark found) [found] :=
  ⟨[.landmark found], .singleton trivial, fun writer _ =>
    (writer.portions_singleton (.landmark found)).symm⟩

theorem append (first : Shows dialect text landmarks) (second : Shows dialect next others) :
    Shows dialect (fun writer => text writer ++ next writer) (landmarks ++ others) := by
  obtain ⟨portions, frames, spelled⟩ := first
  obtain ⟨behind, framesBehind, spelledBehind⟩ := second
  refine ⟨portions ++ behind, frames.append framesBehind, fun writer qualifies => ?_⟩
  dsimp only
  rw [writer.portions_append, spelled writer qualifies, spelledBehind writer qualifies]

theorem congr (displayed : Shows dialect text landmarks)
    (same : ∀ writer : Writer, writer.Qualifies dialect → next writer = text writer) :
    Shows dialect next landmarks := by
  obtain ⟨portions, frames, spelled⟩ := displayed
  exact ⟨portions, frames, fun writer qualifies =>
    (same writer qualifies).trans (spelled writer qualifies)⟩

theorem ofText (content : String) (neutral : content = "INSERTED." ∨ '.' ∉ content.toList) :
    Shows dialect (fun _ => (Fragment.ofText content).sql) [] := by
  apply (plain content neutral).congr
  intro writer _
  exact Fragment.sql_ofText content

theorem fragments {first second : Writer → Fragment}
    (head : Shows dialect (fun writer => (first writer).sql) landmarks)
    (tail : Shows dialect (fun writer => (second writer).sql) others) :
    Shows dialect (fun writer => (first writer ++ second writer).sql) (landmarks ++ others) := by
  apply (head.append tail).congr
  intro writer _
  exact Fragment.sql_append (first writer) (second writer)

/-- Items in a row with a comma between each two of them. -/
theorem joined {A : Type} (items : List A) {text : Writer → A → String}
    {landmarks : A → List Landmark}
    (each : ∀ item ∈ items, Shows dialect (text · item) (landmarks item)) :
    Shows dialect (fun writer => ", ".intercalate (items.map (text writer)))
      (items.flatMap landmarks) := by
  induction items with
  | nil => exact plain "" (by simp)
  | cons first rest inductionHypothesis =>
      have head := each first List.mem_cons_self
      have tail := inductionHypothesis fun item member => each item (List.mem_cons_of_mem first member)
      cases rest with
      | nil => simpa using head
      | cons second rest =>
          have whole := (head.append (plain ", " (by simp))).append tail
          rw [List.append_nil] at whole
          apply whole.congr
          intro writer _
          exact String.intercalate_cons_cons

end Shows

namespace ShowsWritten

variable {dialect : Dialect} {write next : Writer → Except Error Fragment}
  {landmarks others : List Landmark}

theorem of_ok {fragment : Writer → Fragment}
    (displayed : Shows dialect (fun writer => (fragment writer).sql) landmarks) :
    ShowsWritten dialect (fun writer => .ok (fragment writer)) landmarks := by
  obtain ⟨portions, frames, spelled⟩ := displayed
  refine ⟨portions, frames, fun writer written qualifies same => ?_⟩
  cases same
  exact spelled writer qualifies

/-- What is written under a condition, if it is written. -/
theorem of_ok_if {holds : Writer → Bool} {refusal : Writer → Error}
    (displayed : ShowsWritten dialect write landmarks) :
    ShowsWritten dialect (fun writer => if holds writer then write writer else .error (refusal writer))
      landmarks := by
  obtain ⟨portions, frames, spelled⟩ := displayed
  refine ⟨portions, frames, fun writer fragment qualifies written => ?_⟩
  dsimp only at written
  split at written
  · exact spelled writer fragment qualifies written
  · cases written

theorem append (first : ShowsWritten dialect write landmarks)
    (second : ShowsWritten dialect next others) :
    ShowsWritten dialect (fun writer => do return (← write writer) ++ (← next writer))
      (landmarks ++ others) := by
  obtain ⟨portions, frames, spelled⟩ := first
  obtain ⟨behind, framesBehind, spelledBehind⟩ := second
  refine ⟨portions ++ behind, frames.append framesBehind,
    fun writer fragment qualifies written => ?_⟩
  obtain ⟨head, starts, written⟩ := bind_eq_ok.mp written
  obtain ⟨tail, ends, done⟩ := bind_eq_ok.mp written
  cases done
  rw [Fragment.sql_append, writer.portions_append, spelled writer head qualifies starts,
    spelledBehind writer tail qualifies ends]

/-- What is written between two texts. -/
theorem around (whole : Writer → Except Error Fragment) {front back : Writer → String}
    {before behind : List Landmark} (first : Shows dialect front before)
    (inner : ShowsWritten dialect write landmarks) (last : Shows dialect back behind)
    (taken : ∀ (writer : Writer) (fragment : Fragment), whole writer = .ok fragment →
      ∃ clause, write writer = .ok clause ∧
        fragment.sql = front writer ++ clause.sql ++ back writer) :
    ShowsWritten dialect whole (before ++ landmarks ++ behind) := by
  obtain ⟨portions, frames, spelled⟩ := inner
  obtain ⟨portionsBefore, framesBefore, spelledBefore⟩ := first
  obtain ⟨portionsBehind, framesBehind, spelledBehind⟩ := last
  refine ⟨portionsBefore ++ portions ++ portionsBehind,
    (framesBefore.append frames).append framesBehind,
    fun writer fragment qualifies done => ?_⟩
  obtain ⟨clause, written, text⟩ := taken writer fragment done
  rw [text, writer.portions_append, writer.portions_append, spelledBefore writer qualifies,
    spelled writer clause qualifies written, spelledBehind writer qualifies]

end ShowsWritten

/-- The columns that an expression reads. -/
def Expression.columns : Expression → List Column
  | column found => [found]
  | upper operand => operand.columns
  | marker _ | bool _ | int _ => []

/-- The columns that a test reads, in textual order. -/
def Test.columns : Test → List Column
  | compare _ left right | contains left right => left.columns ++ right.columns
  | isIn operand values => operand.columns ++ values.flatMap Expression.columns
  | between operand low high => operand.columns ++ low.columns ++ high.columns
  | isNull operand | isNotNull operand => operand.columns

/-- The column that a sort key reads. -/
def SortKey.sorted : SortKey → Column
  | nullFlag found _ => found
  | column found _ => found
  | placed found _ _ => found

namespace Writer

variable (dialect : Dialect)

theorem shows_column (column : Column) :
    Shows dialect (fun writer => writer.column column) [.column column] := by
  apply (Shows.landmark (.column column)).congr
  intro writer qualifies
  obtain ⟨_ | reference, name⟩ := column
  · rfl
  · exact if_pos qualifies.columns

theorem shows_bareColumn (column : Column) :
    Shows dialect (fun writer => writer.bareColumn column) [.column { name := column.name }] :=
  Shows.landmark (.column { name := column.name })

theorem shows_expression (expression : Expression) :
    Shows dialect (fun writer => (writer.expression expression).sql)
      (expression.columns.map .column) := by
  induction expression with
  | column found =>
      apply (shows_column dialect found).congr
      intro writer _
      exact Fragment.sql_ofText _
  | marker found =>
      apply (Shows.slot found).congr
      intro writer _
      exact Fragment.sql_ofMarker found
  | bool truth =>
      apply (Shows.ofText (dialect.boolLiteral truth)
        (by cases dialect <;> cases truth <;> simp [Dialect.boolLiteral])).congr
      intro writer qualifies
      rw [expression, qualifies.dialect]
  | int integer => exact .ofText (toString integer) (.inr (undotted_toString integer))
  | upper operand inductionHypothesis =>
      have whole := ((Shows.ofText "UPPER(" (by simp)).fragments inductionHypothesis).fragments
        (.ofText ")" (by simp))
      rwa [List.append_nil] at whole

theorem shows_expressions (expressions : List Expression) :
    Shows dialect (fun writer => (writer.expressions expressions).sql)
      ((expressions.flatMap Expression.columns).map .column) := by
  rw [List.map_flatMap]
  apply (Shows.joined expressions fun expression _ => shows_expression dialect expression).congr
  intro writer _
  exact writer.sql_expressions expressions

theorem shows_listed (negated : Bool) (operand : Expression) (values : List Expression) :
    ShowsWritten dialect (fun writer => .ok (writer.listed negated operand values))
      ((Test.isIn operand values).columns.map .column) := by
  have whole := (((shows_expression dialect operand).fragments
    (.ofText (if negated then " NOT IN (" else " IN (") (by cases negated <;> simp))).fragments
    (shows_expressions dialect values)).fragments (.ofText ")" (by simp))
  rw [List.append_nil, List.append_nil, ← List.map_append] at whole
  exact .of_ok whole

theorem shows_ranged (negated : Bool) (operand low high : Expression) :
    ShowsWritten dialect (fun writer => .ok (writer.ranged negated operand low high))
      ((Test.between operand low high).columns.map .column) := by
  have whole := ((((shows_expression dialect operand).fragments
    (.ofText (if negated then " NOT BETWEEN " else " BETWEEN ")
      (by cases negated <;> simp))).fragments
    (shows_expression dialect low)).fragments (.ofText " AND " (by simp))).fragments
    (shows_expression dialect high)
  rw [List.append_nil, List.append_nil, ← List.map_append, ← List.map_append] at whole
  exact .of_ok whole

theorem shows_test (test : Test) :
    ShowsWritten dialect (fun writer => writer.test test) (test.columns.map .column) := by
  cases test with
  | compare comparison left right =>
      have whole := ((shows_expression dialect left).fragments
        (.ofText (" " ++ comparison.sql ++ " ") (by cases comparison <;> simp [Comparison.sql]))).fragments
        (shows_expression dialect right)
      rw [List.append_nil, ← List.map_append] at whole
      exact .of_ok whole
  | contains left right =>
      have whole := ((shows_expression dialect left).fragments (.ofText " @> " (by simp))).fragments
        (shows_expression dialect right)
      rw [List.append_nil, ← List.map_append] at whole
      exact .of_ok_if (.of_ok whole)
  | isIn operand values => exact shows_listed dialect false operand values
  | between operand low high => exact shows_ranged dialect false operand low high
  | isNull operand =>
      have whole := (shows_expression dialect operand).fragments (.ofText " IS NULL" (by simp))
      rw [List.append_nil] at whole
      exact .of_ok whole
  | isNotNull operand =>
      have whole := (shows_expression dialect operand).fragments (.ofText " IS NOT NULL" (by simp))
      rw [List.append_nil] at whole
      exact .of_ok whole

theorem shows_atom (atom : Atom) :
    ShowsWritten dialect (fun writer => writer.atom atom) (atom.test.columns.map .column) := by
  cases atom with
  | plain test => exact shows_test dialect test
  | notIn operand values => exact shows_listed dialect true operand values
  | notBetween operand low high => exact shows_ranged dialect true operand low high

theorem shows_lexeme (lexeme : Lexeme) :
    ShowsWritten dialect (fun writer => writer.lexeme lexeme)
      (((Condition.testsOf [lexeme]).flatMap Test.columns).map .column) := by
  cases lexeme with
  | atom found =>
      have columns : (Condition.testsOf [.atom found]).flatMap Test.columns = found.test.columns :=
        List.append_nil _
      rw [columns]
      exact shows_atom dialect found
  | opening => exact .of_ok (.ofText "(" (by simp))
  | closing => exact .of_ok (.ofText ")" (by simp))
  | not => exact .of_ok (.ofText "NOT " (by simp))
  | and => exact .of_ok (.ofText " AND " (by simp))
  | or => exact .of_ok (.ofText " OR " (by simp))

theorem shows_lexemes (lexemes : List Lexeme) :
    ShowsWritten dialect (fun writer => writer.lexemes lexemes)
      (((Condition.testsOf lexemes).flatMap Test.columns).map .column) := by
  induction lexemes with
  | nil => exact .of_ok (.plain "" (by simp))
  | cons lexeme rest inductionHypothesis =>
      have parts : Condition.testsOf (lexeme :: rest) =
          Condition.testsOf [lexeme] ++ Condition.testsOf rest :=
        Condition.testsOf_append [lexeme] rest
      rw [parts, List.flatMap_append, List.map_append]
      exact (shows_lexeme dialect lexeme).append inductionHypothesis

/-- The landmarks of a WHERE clause: its keyword and the columns of its tests. -/
def conditionLandmarks : Option Condition → List Landmark
  | none => []
  | some condition => .clause " WHERE " :: (condition.tests.flatMap Test.columns).map .column

theorem shows_whereClause (condition : Option Condition) :
    ShowsWritten dialect (fun writer => writer.whereClause condition)
      (conditionLandmarks condition) := by
  cases condition with
  | none => exact .of_ok (.plain "" (by simp))
  | some found =>
      have tests := shows_lexemes dialect found.lexemes
      rw [found.testsOf_lexemes] at tests
      have whole := ShowsWritten.around (fun writer => writer.whereClause (some found))
        (.landmark (.clause " WHERE ")) tests (.plain "" (by simp))
      rw [List.append_nil] at whole
      apply whole
      intro writer fragment written
      obtain ⟨clause, tested, rfl⟩ := map_eq_ok.mp written
      refine ⟨clause, tested, ?_⟩
      rw [Fragment.sql_append, Fragment.sql_ofText, String.append_empty]
      rfl

theorem shows_sortKey (key : SortKey) :
    Shows dialect (fun writer => writer.sortKey key) [.column key.sorted] := by
  cases key with
  | nullFlag column nullsFirst =>
      exact (((Shows.plain "CASE WHEN " (by simp)).append (shows_column dialect column)).append
        (.plain " IS NULL THEN " (by simp))).append
        (.plain (if nullsFirst then "0 ELSE 1 END" else "1 ELSE 0 END")
          (by cases nullsFirst <;> simp))
  | column column direction =>
      exact ((shows_column dialect column).append (.plain " " (by simp))).append
        (.plain direction.keyword (by cases direction <;> simp [Direction.keyword]))
  | placed column direction nullsFirst =>
      exact (((shows_column dialect column).append (.plain " " (by simp))).append
        (.plain direction.keyword (by cases direction <;> simp [Direction.keyword]))).append
        (.plain (if nullsFirst then " NULLS FIRST" else " NULLS LAST")
          (by cases nullsFirst <;> simp))

/-- The landmarks of an ORDER BY clause. A column is read twice where a flag places its nulls. -/
def orderLandmarks (dialect : Dialect) (keys : List Statement.OrderKey) : List Landmark :=
  if keys.isEmpty then []
  else .clause " ORDER BY " :: keys.flatMap fun key =>
    if dialect.ordersNulls || key.nulls = .native then [.column key.column]
    else [.column key.column, .column key.column]

theorem sorted_sortKeys (writer : Writer) (key : Statement.OrderKey) :
    (writer.sortKeys key).map (fun sortKey => Landmark.column sortKey.sorted) =
      if writer.dialect.ordersNulls || key.nulls = .native then [.column key.column]
      else [.column key.column, .column key.column] := by
  obtain ⟨column, direction, nulls⟩ := key
  cases nulls with
  | native => simp [sortKeys, SortKey.sorted]
  | _ => cases places : writer.dialect.ordersNulls <;> simp [sortKeys, SortKey.sorted, places]

theorem shows_orderClause (keys : List Statement.OrderKey) :
    Shows dialect (fun writer => writer.orderClause keys) (orderLandmarks dialect keys) := by
  cases keys with
  | nil => exact .plain "" (by simp)
  | cons key rest =>
      have sortKeys := Shows.joined ((key :: rest).flatMap (Writer.mk dialect {}).sortKeys)
        fun sortKey _ => shows_sortKey dialect sortKey
      rw [← List.map_eq_flatMap, List.map_flatMap] at sortKeys
      simp only [sorted_sortKeys] at sortKeys
      apply ((Shows.landmark (.clause " ORDER BY ")).append sortKeys).congr
      intro writer qualifies
      have same : writer.sortKeys = (Writer.mk dialect {}).sortKeys := by
        funext key
        rw [Writer.sortKeys, Writer.sortKeys, qualifies.dialect]
      rw [orderClause, same]
      rfl

theorem undotted_pageClause (writer : Writer) (ordered : Bool) (page : Page) :
    '.' ∉ (writer.pageClause ordered page).toList := by
  rw [pageClause]
  split
  · decide
  · rename_i clause _
    have order : '.' ∉ (if writer.dialect.skipsOrderedOnly && !ordered then " ORDER BY (SELECT 1)"
        else "").toList := by split <;> decide
    have clause : '.' ∉ clause.sql.toList := by
      cases clause with
      | offsetFetch skipped count =>
          cases count <;> simp [PageClause.sql, PageClause.number, Text.not_mem_toDigits]
      | _ => simp [PageClause.sql, PageClause.number, Text.not_mem_toDigits]
    simp only [String.toList_append, List.mem_append, not_or]
    exact ⟨⟨order, by decide⟩, clause⟩

theorem shows_pageClause (ordered : Bool) (page : Page) :
    Shows dialect (fun writer => writer.pageClause ordered page) [] := by
  apply (Shows.plain ((Writer.mk dialect {}).pageClause ordered page)
    (.inr (undotted_pageClause _ ordered page))).congr
  intro writer qualifies
  rw [pageClause, pageClause, qualifies.dialect]

theorem shows_declaredTable (keyword : String) (table : Table) :
    Shows dialect (fun writer => keyword ++ writer.declaredTable table) [.table keyword table] := by
  apply (Shows.landmark (.table keyword table)).congr
  intro writer _
  obtain ⟨name, _ | aliasName⟩ := table
  · rfl
  · exact (String.append_assoc ..).symm.trans (congrArg (· ++ _) (String.append_assoc ..).symm)

theorem shows_table (keyword : String) (table : Table) :
    Shows dialect (fun writer => keyword ++ writer.table table)
      [.table keyword table.unaliased] :=
  Shows.landmark (.table keyword table.unaliased)

theorem shows_assignment (assignment : Column × Expression) :
    Shows dialect
      (fun writer => writer.bareColumn assignment.1 ++ " = " ++ (writer.expression assignment.2).sql)
      (.column { name := assignment.1.name } :: assignment.2.columns.map .column) :=
  ((shows_bareColumn dialect assignment.1).append (.plain " = " (by simp))).append
    (shows_expression dialect assignment.2)

/-- The clause that asks for generated keys shows its keyword and its columns, none of them behind a
reference. -/
def returnedLandmarks (keyword : String) (asked : Bool) (columns : List Column) : List Landmark :=
  if columns.isEmpty || !asked then []
  else .clause keyword :: columns.map fun column => .column { name := column.name }

theorem shows_outputClause (columns : List Column) :
    Shows dialect (fun writer => writer.outputClause columns)
      (returnedLandmarks " OUTPUT " (dialect.keyRetrieval == .output) columns) := by
  rw [returnedLandmarks]
  split
  · rename_i absent
    apply (Shows.plain "" (by simp)).congr
    intro writer qualifies
    rw [outputClause, qualifies.dialect]
    exact if_pos absent
  · rename_i present
    have inserted := Shows.joined columns fun column _ =>
      (Shows.plain "INSERTED." (by simp)).append (shows_bareColumn dialect column)
    simp only [List.nil_append, ← List.map_eq_flatMap] at inserted
    apply ((Shows.landmark (.clause " OUTPUT ")).append inserted).congr
    intro writer qualifies
    rw [outputClause, qualifies.dialect]
    exact if_neg present

theorem shows_returningClause (columns : List Column) :
    Shows dialect (fun writer => writer.returningClause columns)
      (returnedLandmarks " RETURNING " (dialect.keyRetrieval == .returning) columns) := by
  rw [returnedLandmarks]
  split
  · rename_i absent
    apply (Shows.plain "" (by simp)).congr
    intro writer qualifies
    rw [returningClause, qualifies.dialect]
    exact if_pos absent
  · rename_i present
    have returned := Shows.joined columns fun column _ =>
      shows_bareColumn dialect column
    rw [← List.map_eq_flatMap] at returned
    apply ((Shows.landmark (.clause " RETURNING ")).append returned).congr
    intro writer qualifies
    rw [returningClause, qualifies.dialect]
    exact if_neg present

/-- The landmarks of a statement, each column in the clause that it is written in. -/
def statementLandmarks (dialect : Dialect) : Statement → List Landmark
  | .select statement =>
      .clause "SELECT " :: statement.projection.map .column
        ++ .table " FROM " statement.table :: conditionLandmarks statement.condition
        ++ orderLandmarks dialect statement.order
  | .insert statement =>
      .table "INSERT INTO " statement.table.unaliased
        :: statement.columns.map (fun column => .column { name := column.name })
        ++ returnedLandmarks " OUTPUT " (dialect.keyRetrieval == .output) statement.returning
        ++ .clause " VALUES (" :: (statement.values.flatMap Expression.columns).map .column
        ++ returnedLandmarks " RETURNING " (dialect.keyRetrieval == .returning) statement.returning
  | .update statement =>
      .table "UPDATE " statement.table.unaliased :: .clause " SET "
        :: statement.assignments.flatMap (fun assignment =>
          .column { name := assignment.1.name } :: assignment.2.columns.map .column)
        ++ conditionLandmarks statement.condition
  | .delete statement =>
      .table "DELETE FROM " statement.table.unaliased :: conditionLandmarks statement.condition

theorem shows_select (statement : Statement.Select) :
    ShowsWritten dialect (fun writer => writer.select statement)
      (statementLandmarks dialect (.select statement)) := by
  have columns : Shows dialect (fun writer => if statement.projection.isEmpty then "*"
        else ", ".intercalate (statement.projection.map writer.column))
      (statement.projection.map .column) := by
    cases empty : statement.projection with
    | nil => exact .plain "*" (by simp)
    | cons first rest =>
        have joined := Shows.joined (first :: rest) fun column _ =>
          shows_column dialect column
        rwa [← List.map_eq_flatMap] at joined
  have front := (((Shows.landmark (.clause "SELECT ")).append
    (.plain (if statement.distinct then "DISTINCT " else "")
      (by cases statement.distinct <;> simp))).append columns).append
    (shows_declaredTable dialect " FROM " statement.table)
  have back := (shows_orderClause dialect statement.order).append
    (shows_pageClause dialect (!statement.order.isEmpty) statement.page)
  have whole := ShowsWritten.around (fun writer => writer.select statement) front
    (shows_whereClause dialect statement.condition) back fun writer fragment written => by
      obtain ⟨clause, tested, text, _⟩ := writer.select_written written
      refine ⟨clause, tested, text.trans ?_⟩
      simp only [String.append_assoc]
      rfl
  simpa [statementLandmarks] using whole

theorem shows_insert (statement : Statement.Insert) :
    ShowsWritten dialect (fun writer => .ok (writer.insert statement))
      (statementLandmarks dialect (.insert statement)) := by
  have columns := Shows.joined statement.columns fun column _ =>
    shows_bareColumn dialect column
  have whole := (((((((shows_table dialect "INSERT INTO " statement.table).append
    (.plain " (" (by simp))).append columns).append (.plain ")" (by simp))).append
    (shows_outputClause dialect statement.returning)).append (.landmark (.clause " VALUES ("))).append
    (shows_expressions dialect statement.values)).append
    ((Shows.plain ")" (by simp)).append (shows_returningClause dialect statement.returning))
  have text : Shows dialect (fun writer => (writer.insert statement).sql) _ :=
    whole.congr fun writer _ => by
      rw [(writer.insert_written statement).1]
      simp only [String.append_assoc]
      rfl
  apply ShowsWritten.of_ok
  simpa [statementLandmarks, ← List.map_eq_flatMap] using text

theorem shows_update (statement : Statement.Update) :
    ShowsWritten dialect (fun writer => writer.update statement)
      (statementLandmarks dialect (.update statement)) := by
  have pairs := Shows.joined statement.assignments fun assignment _ =>
    shows_assignment dialect assignment
  have front := ((shows_table dialect "UPDATE " statement.table).append
    (.landmark (.clause " SET "))).append pairs
  have whole := ShowsWritten.around (fun writer => writer.update statement) front
    (shows_whereClause dialect statement.condition) (.plain "" (by simp))
    fun writer fragment written => by
      obtain ⟨clause, tested, text, _⟩ := writer.update_written written
      refine ⟨clause, tested, text.trans ?_⟩
      simp only [String.append_assoc, String.append_empty]
      rfl
  simpa [statementLandmarks] using whole

theorem shows_delete (statement : Statement.Delete) :
    ShowsWritten dialect (fun writer => writer.delete statement)
      (statementLandmarks dialect (.delete statement)) := by
  have whole := ShowsWritten.around (fun writer => writer.delete statement)
    (shows_table dialect "DELETE FROM " statement.table)
    (shows_whereClause dialect statement.condition) (.plain "" (by simp))
    fun writer fragment written => by
      obtain ⟨clause, tested, text, _⟩ := writer.delete_written written
      refine ⟨clause, tested, text.trans ?_⟩
      simp only [String.append_assoc, String.append_empty]
  simpa [statementLandmarks] using whole

/-- A statement is written as its landmarks with plain text between them. -/
theorem shows_statement (statement : Statement) :
    ShowsWritten dialect (fun writer => writer.statement statement)
      (statementLandmarks dialect statement) := by
  cases statement with
  | select statement => exact shows_select dialect statement
  | insert statement => exact shows_insert dialect statement
  | update statement => exact shows_update dialect statement
  | delete statement => exact shows_delete dialect statement

end Writer

end BindPlan
