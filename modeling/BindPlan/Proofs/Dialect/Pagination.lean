import BindPlan.Dialect.Pagination

namespace BindPlan

theorem Text.not_mem_toDigits {char : Char} (other : char.isDigit = false) (number : Nat) :
    char ∉ Nat.toDigits 10 number := by
  intro member
  have digit : char.isDigit = true := Nat.isDigit_of_mem_toDigits (by decide) (by decide) member
  simp [other] at digit

/-- A window of rows: so many are skipped, and then so many are taken, or all that are left. -/
structure RowWindow where
  skipped : Nat
  count : Option Nat
deriving DecidableEq, Repr

/-- The rows in the window. -/
def RowWindow.select {Row : Type} (window : RowWindow) (rows : List Row) : List Row :=
  match window.count with
  | some count => (rows.drop window.skipped).take count
  | none => rows.drop window.skipped

/-- A word of a pagination clause. -/
inductive PageWord where
  | limit
  | offset
  | rows
  | fetch
  | next
  | only
  | number (count : Nat)
  /-- A number with a comma behind it. -/
  | listed (count : Nat)
  | negative (count : Nat)
deriving DecidableEq, Repr

namespace PageWord

/-- The number that a row of digits stands for. -/
def digits? (word : List Char) : Option Nat :=
  if word ≠ [] ∧ word.all Char.isDigit then some (Nat.ofDigitChars 10 word 0) else none

/-- A word of digits, with a comma behind them or a sign in front of them or neither. -/
def numeral? (word : List Char) : Option PageWord :=
  match digits? word with
  | some count => some (.number count)
  | none =>
      if word.getLast? = some ',' then (digits? word.dropLast).map .listed
      else if word.head? = some '-' then (digits? word.tail).map .negative
      else none

def keyword? (word : List Char) : Option PageWord :=
  [("LIMIT", limit), ("OFFSET", offset), ("ROWS", rows), ("FETCH", fetch), ("NEXT", next),
    ("ONLY", only)].lookup (String.ofList word)

def ofChars? (word : List Char) : Option PageWord := numeral? word <|> keyword? word

end PageWord

namespace RowWindow

/-- A count, and how many rows it leaves out behind it. -/
def limited? : List PageWord → Option RowWindow
  | [.limit, .number count] => some ⟨0, some count⟩
  | [.limit, .number count, .offset, .number skipped] => some ⟨skipped, some count⟩
  | _ => none

/-- The rows to be skipped stand in front of the count. -/
def listed? : List PageWord → Option RowWindow
  | [.limit, .listed skipped, .number count] => some ⟨skipped, some count⟩
  | _ => none

/-- A negative count is no bound. -/
def unbounded? : List PageWord → Option RowWindow
  | [.limit, .negative _] => some ⟨0, none⟩
  | [.limit, .negative _, .offset, .number skipped] => some ⟨skipped, none⟩
  | _ => none

def offset? : List PageWord → Option RowWindow
  | [.offset, .number skipped] => some ⟨skipped, none⟩
  | _ => none

def fetched? : List PageWord → Option RowWindow
  | [.offset, .number skipped, .rows] => some ⟨skipped, none⟩
  | [.offset, .number skipped, .rows, .fetch, .next, .number count, .rows, .only] =>
      some ⟨skipped, some count⟩
  | _ => none

end RowWindow

namespace Dialect

/-- The window that the words of a clause stand for in a dialect. -/
def window? (dialect : Dialect) (words : List PageWord) : Option RowWindow :=
  match dialect with
  | postgres | h2 => RowWindow.limited? words <|> RowWindow.offset? words
  | mysql => RowWindow.limited? words <|> RowWindow.listed? words
  | sqlite =>
      RowWindow.limited? words <|> RowWindow.listed? words <|> RowWindow.unbounded? words
  | sqlserver | oracle => RowWindow.fetched? words

/-- The window that a clause stands for in a dialect. Without a clause it holds all rows. -/
def readWindow? (dialect : Dialect) : Option String → Option RowWindow
  | none => some ⟨0, none⟩
  | some clause => do
      let words ← (clause.toList.splitOn ' ').mapM PageWord.ofChars?
      dialect.window? words

end Dialect

namespace PageWord

theorem digits?_toDigits (number : Nat) : digits? (Nat.toDigits 10 number) = some number := by
  have digits : (Nat.toDigits 10 number).all Char.isDigit = true := by
    rw [List.all_eq_true]
    intro char member
    exact Nat.isDigit_of_mem_toDigits (by omega) (by omega) member
  rw [digits?, if_pos ⟨Nat.toDigits_ne_nil, digits⟩, Nat.ofDigitChars_ten_toDigits]

theorem ofChars?_number (number : Nat) :
    ofChars? (Nat.toDigits 10 number) = some (.number number) := by
  simp [ofChars?, numeral?, digits?_toDigits]

/-- The comma keeps the word from being a number. -/
theorem ofChars?_listed (number : Nat) :
    ofChars? (Nat.toDigits 10 number ++ [',']) = some (.listed number) := by
  have comma : digits? (Nat.toDigits 10 number ++ [',']) = none := by
    simp [digits?]
  simp [ofChars?, numeral?, comma, digits?_toDigits]

end PageWord

namespace PageClause

/-- The words of a written clause. -/
def words : PageClause → List (List Char)
  | limit count => ["LIMIT".toList, Nat.toDigits 10 count.toNat]
  | offset skipped => ["OFFSET".toList, Nat.toDigits 10 skipped.toNat]
  | limitOffset count skipped =>
      ["LIMIT".toList, Nat.toDigits 10 count.toNat, "OFFSET".toList, Nat.toDigits 10 skipped.toNat]
  | skipThenCount skipped count =>
      ["LIMIT".toList, Nat.toDigits 10 skipped.toNat ++ [','], Nat.toDigits 10 count.toNat]
  | unlimitedOffset skipped =>
      ["LIMIT".toList, "-1".toList, "OFFSET".toList, Nat.toDigits 10 skipped.toNat]
  | offsetFetch skipped none =>
      ["OFFSET".toList, Nat.toDigits 10 skipped.toNat, "ROWS".toList]
  | offsetFetch skipped (some count) =>
      ["OFFSET".toList, Nat.toDigits 10 skipped.toNat, "ROWS".toList, "FETCH".toList, "NEXT".toList,
        Nat.toDigits 10 count.toNat, "ROWS".toList, "ONLY".toList]

/-- The words of a clause as they are read. -/
def read : PageClause → List PageWord
  | limit count => [.limit, .number count.toNat]
  | offset skipped => [.offset, .number skipped.toNat]
  | limitOffset count skipped => [.limit, .number count.toNat, .offset, .number skipped.toNat]
  | skipThenCount skipped count => [.limit, .listed skipped.toNat, .number count.toNat]
  | unlimitedOffset skipped => [.limit, .negative 1, .offset, .number skipped.toNat]
  | offsetFetch skipped none => [.offset, .number skipped.toNat, .rows]
  | offsetFetch skipped (some count) =>
      [.offset, .number skipped.toNat, .rows, .fetch, .next, .number count.toNat, .rows, .only]

theorem splitOn_sql (clause : PageClause) : clause.sql.toList.splitOn ' ' = clause.words := by
  have joined : clause.sql.toList = [' '].intercalate clause.words := by
    cases clause with
    | offsetFetch skipped count =>
        cases count <;> simp [sql, words, number, List.intercalate]
    | _ => simp [sql, words, number, List.intercalate]
  have apart : ∀ word ∈ clause.words, ' ' ∉ word := by
    cases clause with
    | offsetFetch skipped count => cases count <;> simp [words, Text.not_mem_toDigits]
    | _ => simp [words, Text.not_mem_toDigits]
  have nonempty : clause.words ≠ [] := by
    cases clause with
    | offsetFetch skipped count => cases count <;> simp [words]
    | _ => simp [words]
  rw [joined, List.splitOn_intercalate _ apart nonempty]

/-- What is written is read. -/
theorem mapM_words (clause : PageClause) : clause.words.mapM PageWord.ofChars? = some clause.read := by
  have limit : PageWord.ofChars? "LIMIT".toList = some .limit := by decide
  have unlimited : PageWord.ofChars? "-1".toList = some (.negative 1) := by decide
  have offset : PageWord.ofChars? "OFFSET".toList = some .offset := by decide
  have rows : PageWord.ofChars? "ROWS".toList = some .rows := by decide
  have fetch : PageWord.ofChars? "FETCH".toList = some .fetch := by decide
  have next : PageWord.ofChars? "NEXT".toList = some .next := by decide
  have only : PageWord.ofChars? "ONLY".toList = some .only := by decide
  cases clause with
  | offsetFetch skipped count =>
      cases count <;>
        simp only [words, List.mapM_cons, List.mapM_nil, offset, rows, fetch, next, only,
          PageWord.ofChars?_number] <;> rfl
  | _ =>
      simp only [words, List.mapM_cons, List.mapM_nil, limit, unlimited, offset,
        PageWord.ofChars?_number, PageWord.ofChars?_listed]
      rfl

end PageClause

namespace Dialect

theorem readWindow?_sql (dialect : Dialect) (clause : PageClause) :
    dialect.readWindow? (some clause.sql) = dialect.window? clause.read := by
  rw [readWindow?, clause.splitOn_sql, clause.mapM_words]
  rfl

/-- The window of a pagination clause holds the rows that its bounds ask for, as long as there are no
more rows than a count can tell. -/
theorem readWindow?_pageClause (dialect : Dialect) (limit offset : Option UInt64) :
    ∃ window, dialect.readWindow? ((dialect.pageClause? limit offset).map PageClause.sql) = some window ∧
      ∀ {Row : Type} (rows : List Row), rows.length < UInt64.size →
        window.select rows =
          RowWindow.select ⟨(offset.getD 0).toNat, limit.map UInt64.toNat⟩ rows := by
  cases limit with
  | none =>
      cases offset with
      | none => exact ⟨_, rfl, fun rows _ => rfl⟩
      | some skipped =>
          cases dialect with
          | mysql =>
              refine ⟨_, readWindow?_sql _ _, fun rows bounded => ?_⟩
              have whole : (rows.drop skipped.toNat).length ≤ PageClause.allRows.toNat := by
                have most : PageClause.allRows.toNat = UInt64.size - 1 := rfl
                rw [List.length_drop]
                omega
              exact List.take_of_length_le whole
          | _ => exact ⟨_, readWindow?_sql _ _, fun rows _ => rfl⟩
  | some count =>
      cases offset with
      | none => cases dialect <;> exact ⟨_, readWindow?_sql _ _, fun rows _ => rfl⟩
      | some skipped => cases dialect <;> exact ⟨_, readWindow?_sql _ _, fun rows _ => rfl⟩

end Dialect

end BindPlan
