import BindPlan.Proofs.Dialect.Pagination
import BindPlan.Proofs.Statement.Written

namespace BindPlan

namespace Page

/-- The rows that the bounds of a page ask for. -/
def window (page : Page) : RowWindow := ⟨(page.offset.getD 0).toNat, page.limit.map UInt64.toNat⟩

/-- The text of the clause for a page, if it needs one. -/
def clause? (page : Page) (dialect : Dialect) : Option String :=
  (dialect.pageClause? page.limit page.offset).map PageClause.sql

variable {Row : Type} {rows : List Row}

/-- A page holds the rows of its number, since an offset that is cut off skips all rows. -/
theorem select_ofNumber (bounded : rows.length < UInt64.size) {number : Nat}
    (fits : number < UInt64.size) (size : UInt64) :
    (Page.ofNumber (UInt64.ofNat number) size).window.select rows =
      (rows.drop (number * size.toNat)).take size.toNat := by
  have same : (UInt64.ofNat number).toNat = number := UInt64.toNat_ofNat_of_lt' fits
  have offset : (UInt64.ofNat (min maxOffset (number * size.toNat))).toNat =
      min maxOffset (number * size.toNat) := by
    apply UInt64.toNat_ofNat_of_lt'
    have most : maxOffset = UInt64.size - 1 := rfl
    have positive : 0 < UInt64.size := by decide
    omega
  have skipped : rows.drop (min maxOffset (number * size.toNat)) =
      rows.drop (number * size.toNat) := by
    by_cases inside : number * size.toNat ≤ maxOffset
    · rw [Nat.min_eq_right inside]
    · have most : maxOffset = UInt64.size - 1 := rfl
      rw [List.drop_eq_nil_of_le (by omega), List.drop_eq_nil_of_le (by omega)]
  simp [window, ofNumber, RowWindow.select, same, offset, skipped]

/-- Pages put behind one another leave out no row and give none twice. -/
theorem flatMap_select (bounded : rows.length < UInt64.size) (size : UInt64) {count : Nat}
    (fits : count ≤ UInt64.size) :
    ((List.range count).flatMap fun number =>
        (Page.ofNumber (UInt64.ofNat number) size).window.select rows) =
      rows.take (count * size.toNat) := by
  induction count with
  | zero => simp
  | succ count inductionHypothesis =>
      rw [List.range_succ, List.flatMap_append, inductionHypothesis (by omega),
        List.flatMap_singleton, select_ofNumber bounded (by omega), Nat.succ_mul, List.take_add]

end Page

namespace Writer

/-- The text of a SELECT up to its WHERE clause. -/
def selection (writer : Writer) (statement : Statement.Select) (clause : Fragment) : String :=
  "SELECT " ++ (if statement.distinct then "DISTINCT " else "")
    ++ (if statement.projection.isEmpty then "*"
      else ", ".intercalate (statement.projection.map writer.column))
    ++ " FROM " ++ writer.declaredTable statement.table ++ clause.sql

/-- The keys that the rows of a page are ordered by: those of the statement, or one that is the same for
all rows. -/
def pageOrder (writer : Writer) (keys : List Statement.OrderKey) : String :=
  if keys.isEmpty then "(SELECT 1)"
  else ", ".intercalate ((keys.flatMap writer.sortKeys).map writer.sortKey)

/-- Where rows are skipped of ordered statements only, one ORDER BY clause stands in front of the
pagination clause. -/
theorem select_ordered {writer : Writer} {statement : Statement.Select} {fragment : Fragment}
    {clause : String} (ordersOnly : writer.dialect.skipsOrderedOnly = true)
    (written : writer.select statement = .ok fragment)
    (paged : statement.page.clause? writer.dialect = some clause) :
    ∃ condition, writer.whereClause statement.condition = .ok condition ∧
      fragment.sql = writer.selection statement condition
        ++ " ORDER BY " ++ writer.pageOrder statement.order ++ " " ++ clause := by
  obtain ⟨condition, tested, text, _⟩ := writer.select_written written
  obtain ⟨form, found, rfl⟩ := Option.map_eq_some_iff.mp paged
  refine ⟨condition, tested, text.trans ?_⟩
  rw [pageClause, found, pageOrder, orderClause]
  by_cases unordered : statement.order.isEmpty
  · simp [selection, unordered, ordersOnly, String.append_assoc]
  · simp [selection, unordered, String.append_assoc]

end Writer

/-- The clause of a page selects the rows behind the offset, as many as the limit allows, in every
dialect. A SELECT of SQL Server that has one is ordered by one clause, directly in front of it. The pages
of one size from the first to any other are the rows that they count, each once, also where the number
and the size of a page multiply beyond all offsets. -/
theorem Page.select_tiles :
    (∀ (dialect : Dialect) (page : Page) {Row : Type} (rows : List Row), rows.length < UInt64.size →
      (dialect.readWindow? (page.clause? dialect)).map (fun window => window.select rows) =
        some (match page.limit with
          | some limit => (rows.drop (page.offset.getD 0).toNat).take limit.toNat
          | none => rows.drop (page.offset.getD 0).toNat)) ∧
    (∀ (writer : Writer) (statement : Statement.Select) (fragment : Fragment) (clause : String),
      writer.dialect = .sqlserver → writer.select statement = .ok fragment →
        statement.page.clause? writer.dialect = some clause →
          ∃ condition, writer.whereClause statement.condition = .ok condition ∧
            fragment.sql = writer.selection statement condition
              ++ " ORDER BY " ++ writer.pageOrder statement.order ++ " " ++ clause) ∧
    ∀ (dialect : Dialect) (size last : UInt64) {Row : Type} (rows : List Row),
      rows.length < UInt64.size → ∃ windows,
        (List.range (last.toNat + 1)).mapM (fun number =>
          dialect.readWindow? ((Page.ofNumber (UInt64.ofNat number) size).clause? dialect)) =
            some windows ∧
          windows.flatMap (fun window => window.select rows) =
            rows.take ((last.toNat + 1) * size.toNat) := by
  refine ⟨?_, ?_, ?_⟩
  · intro dialect page Row rows bounded
    obtain ⟨window, read, selects⟩ := dialect.readWindow?_pageClause page.limit page.offset
    rw [clause?, read, Option.map_some, selects rows bounded]
    cases page.limit <;> rfl
  · intro writer statement fragment clause server written paged
    exact Writer.select_ordered (server ▸ rfl) written paged
  · intro dialect size last Row rows bounded
    choose window read selects using fun page : Page =>
      dialect.readWindow?_pageClause page.limit page.offset
    refine ⟨(List.range (last.toNat + 1)).map fun number =>
      window (Page.ofNumber (UInt64.ofNat number) size), ?_, ?_⟩
    · simp only [clause?, read]
      exact List.mapM_pure
    · rw [List.flatMap_map, ← flatMap_select bounded size last.toNat_lt]
      simp only [selects _ rows bounded]
      rfl

/-- The third page of pages that hold half of all counts each is empty, since its offset is cut off. -/
theorem Page.select_tiles_cut :
    let size : UInt64 := 9223372036854775808
    let page : Page := .ofNumber 2 size
    let rows : List Nat := [7, 8, 9]
    let statement : Statement.Select :=
      { table := ⟨"t", some "u"⟩, projection := [], distinct := true, condition := none, order := []
        page }
    let writer : Writer := ⟨.sqlserver, { quoteIdentifiers := true }⟩
    let clause := "OFFSET 18446744073709551615 ROWS FETCH NEXT 9223372036854775808 ROWS ONLY"
    let fragment : Fragment :=
      [.text "SELECT DISTINCT * FROM [t] [u]", .text (" ORDER BY (SELECT 1) " ++ clause)]
    writer.select statement = .ok fragment ∧ page.clause? .sqlserver = some clause ∧
      (Dialect.sqlserver.readWindow? (page.clause? .sqlserver)).map (fun window =>
        window.select rows) = some [] ∧
      (∃ condition, writer.whereClause none = .ok condition ∧
        fragment.sql = writer.selection statement condition
          ++ " ORDER BY " ++ writer.pageOrder [] ++ " " ++ clause) ∧
      ∃ windows, (List.range 3).mapM (fun number =>
          Dialect.sqlserver.readWindow?
            ((Page.ofNumber (UInt64.ofNat number) size).clause? .sqlserver)) = some windows ∧
        windows.flatMap (fun window => window.select rows) = rows := by
  intro size page rows statement writer clause fragment
  have written : writer.select statement = .ok fragment := by decide +kernel
  have paged : page.clause? .sqlserver = some clause := by decide +kernel
  have bounded : rows.length < UInt64.size := by decide
  obtain ⟨selects, ordered, tiles⟩ := Page.select_tiles
  exact ⟨written, paged, selects .sqlserver page rows bounded,
    ordered writer statement fragment clause rfl written paged, tiles .sqlserver size 2 rows bounded⟩

end BindPlan
