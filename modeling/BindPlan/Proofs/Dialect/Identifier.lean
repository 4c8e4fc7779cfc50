import BindPlan.Statement.Writer

namespace BindPlan

namespace Dialect

/-- The name in front of the first closing quote that is not doubled, with what stands behind it. -/
def unquote (closing : Char) : List Char → Option (List Char × List Char)
  | [] => none
  | [char] => if char = closing then some ([], []) else none
  | char :: next :: rest =>
      if char = closing then
        if next = closing then (unquote closing rest).map (Prod.map (closing :: ·) id)
        else some ([], next :: rest)
      else (unquote closing (next :: rest)).map (Prod.map (char :: ·) id)

/-- The name of the quoted identifier that a text starts with, and the text behind it. -/
def identifier? (dialect : Dialect) (text : String) : Option (String × String) :=
  match text.toList with
  | [] => none
  | char :: rest =>
      if char = dialect.openingQuote then
        (unquote dialect.closingQuote rest).map (Prod.map String.ofList String.ofList)
      else none

/-- The column that a text starts with, and the text behind it. Its name stands alone, or behind the
reference of its table and a dot. -/
def column? (dialect : Dialect) (text : String) : Option (Column × String) := do
  let (first, behind) ← dialect.identifier? text
  match behind.toList with
  | '.' :: rest =>
      let (second, last) ← dialect.identifier? (String.ofList rest)
      return (⟨some first, second⟩, last)
  | _ => return ({ name := first }, behind)

/-- The column as one quoted identifier or as two joined by a dot. -/
def quoteColumn (dialect : Dialect) (column : Column) : String :=
  match column.table with
  | some reference =>
      dialect.quoteIdentifier reference ++ "." ++ dialect.quoteIdentifier column.name
  | none => dialect.quoteIdentifier column.name

section Characters

variable {closing : Char} {name rest text : List Char}

theorem doubleQuotes_cons_closing :
    doubleQuotes closing (closing :: name) = closing :: closing :: doubleQuotes closing name := by
  simp [doubleQuotes]

theorem doubleQuotes_cons_other {char : Char} (other : char ≠ closing) :
    doubleQuotes closing (char :: name) = char :: doubleQuotes closing name := by
  simp [doubleQuotes, other]

theorem unquote_cons_other {char : Char} (other : char ≠ closing) (ne : text ≠ []) :
    unquote closing (char :: text) = (unquote closing text).map (Prod.map (char :: ·) id) := by
  cases text with
  | nil => exact (ne rfl).elim
  | cons next rest => rw [unquote, if_neg other]

/-- What quoting writes is read back up to the closing quote that it ends with. -/
theorem unquote_doubleQuotes (ends : rest.head? ≠ some closing) :
    unquote closing (doubleQuotes closing name ++ closing :: rest) = some (name, rest) := by
  induction name with
  | nil =>
      cases rest with
      | nil => simp [doubleQuotes, unquote]
      | cons next rest =>
          have other : next ≠ closing := by simpa using ends
          simp [doubleQuotes, unquote, other]
  | cons char name inductionHypothesis =>
      by_cases same : char = closing
      · subst same
        rw [doubleQuotes_cons_closing, List.cons_append, List.cons_append, unquote, if_pos rfl,
          if_pos rfl, inductionHypothesis]
        rfl
      · rw [doubleQuotes_cons_other same, List.cons_append,
          unquote_cons_other same (by simp), inductionHypothesis]
        rfl

/-- What is read as the inside of an identifier is what quoting writes for the name. -/
theorem eq_doubleQuotes_of_unquote (read : unquote closing text = some (name, rest)) :
    text = doubleQuotes closing name ++ closing :: rest ∧ rest.head? ≠ some closing := by
  fun_induction unquote closing text generalizing name with
  | case1 => cases read
  | case2 =>
      cases read
      exact ⟨rfl, by simp⟩
  | case3 => cases read
  | case4 behind inductionHypothesis =>
      obtain ⟨⟨inside, _⟩, found, same⟩ := Option.map_eq_some_iff.mp read
      cases same
      obtain ⟨written, ends⟩ := inductionHypothesis found
      rw [doubleQuotes_cons_closing, List.cons_append, List.cons_append, ← written]
      exact ⟨rfl, ends⟩
  | case5 next behind other =>
      cases read
      exact ⟨rfl, by simpa using other⟩
  | case6 char next behind other inductionHypothesis =>
      obtain ⟨⟨inside, _⟩, found, same⟩ := Option.map_eq_some_iff.mp read
      cases same
      obtain ⟨written, ends⟩ := inductionHypothesis found
      rw [doubleQuotes_cons_other other, List.cons_append, ← written]
      exact ⟨rfl, ends⟩

end Characters

variable {dialect : Dialect}

theorem toList_quoteIdentifier (name : String) :
    (dialect.quoteIdentifier name).toList =
      dialect.openingQuote ::
        (doubleQuotes dialect.closingQuote name.toList ++ [dialect.closingQuote]) :=
  String.toList_ofList

/-- A quoted identifier is read just where quoting wrote one and no closing quote stands behind it. -/
theorem identifier?_eq_some_iff {text name rest : String} :
    dialect.identifier? text = some (name, rest) ↔
      text = dialect.quoteIdentifier name ++ rest ∧
        rest.toList.head? ≠ some dialect.closingQuote := by
  rw [← String.toList_inj, String.toList_append, toList_quoteIdentifier, List.cons_append,
    List.append_assoc, List.singleton_append]
  constructor
  · intro read
    rw [identifier?] at read
    split at read
    · cases read
    · rename_i char behind characters
      split at read
      · rename_i opens
        obtain ⟨⟨inside, last⟩, found, same⟩ := Option.map_eq_some_iff.mp read
        cases same
        obtain ⟨written, ends⟩ := eq_doubleQuotes_of_unquote found
        rw [characters, opens, written, String.toList_ofList, String.toList_ofList]
        exact ⟨rfl, ends⟩
      · cases read
  · rintro ⟨written, ends⟩
    rw [identifier?, written]
    dsimp only
    rw [if_pos rfl, unquote_doubleQuotes ends, Option.map_some, Prod.map, String.ofList_toList,
      String.ofList_toList]

/-- A dot behind a name would be read as the end of a reference. -/
def Closes (dialect : Dialect) (column : Column) (rest : String) : Prop :=
  rest.toList.head? ≠ some dialect.closingQuote ∧
    (column.table = none → rest.toList.head? ≠ some '.')

/-- A column is read just where quoting wrote one and nothing behind it belongs to it. -/
theorem column?_eq_some_iff {text rest : String} {column : Column} :
    dialect.column? text = some (column, rest) ↔
      text = dialect.quoteColumn column ++ rest ∧ dialect.Closes column rest := by
  constructor
  · intro read
    obtain ⟨⟨first, behind⟩, found, follows⟩ := Option.bind_eq_some_iff.mp read
    obtain ⟨rfl, ends⟩ := identifier?_eq_some_iff.mp found
    dsimp only at follows
    split at follows
    · rename_i last characters
      obtain ⟨⟨second, left⟩, found, same⟩ := Option.bind_eq_some_iff.mp follows
      cases same
      obtain ⟨written, ends⟩ := identifier?_eq_some_iff.mp found
      have dotted : behind = "." ++ String.ofList last := by
        apply String.toList_inj.mp
        simp [characters]
      rw [dotted, written, quoteColumn, ← String.append_assoc, ← String.append_assoc]
      exact ⟨rfl, ends, fun none => by cases none⟩
    · rename_i plain
      cases follows
      refine ⟨rfl, ends, fun _ starts => ?_⟩
      obtain ⟨last, characters⟩ := List.head?_eq_some_iff.mp starts
      exact plain last characters
  · obtain ⟨_ | reference, name⟩ := column
    · rintro ⟨rfl, ends, plain⟩
      have found := identifier?_eq_some_iff.mpr ⟨Eq.refl (dialect.quoteIdentifier name ++ rest), ends⟩
      change (dialect.identifier? (dialect.quoteIdentifier name ++ rest)).bind _ = _
      rw [found, Option.bind_some]
      dsimp only
      split
      · rename_i last characters
        exact (plain rfl (by rw [characters]; rfl)).elim
      · rfl
    · rintro ⟨rfl, ends, _⟩
      have second := identifier?_eq_some_iff.mpr ⟨Eq.refl (dialect.quoteIdentifier name ++ rest), ends⟩
      have dotted : dialect.quoteColumn ⟨some reference, name⟩ ++ rest =
          dialect.quoteIdentifier reference ++ ("." ++ (dialect.quoteIdentifier name ++ rest)) := by
        rw [quoteColumn, String.append_assoc, String.append_assoc]
      have first := identifier?_eq_some_iff.mpr ⟨dotted, by cases dialect <;> simp [closingQuote]⟩
      have characters : ("." ++ (dialect.quoteIdentifier name ++ rest)).toList =
          '.' :: (dialect.quoteIdentifier name ++ rest).toList := String.toList_append
      change (dialect.identifier? (dialect.quoteColumn ⟨some reference, name⟩ ++ rest)).bind _ = _
      rw [first, Option.bind_some]
      simp only [characters, String.ofList_toList, second]
      rfl

end Dialect

namespace Writer

/-- What a written column shows of a column. Its table is shown where columns are qualified. -/
def shown (writer : Writer) (column : Column) : Column :=
  if writer.options.qualifyColumns then column else { name := column.name }

variable {writer : Writer}

theorem identifier_quoted (quotes : writer.options.quoteIdentifiers = true) (name : String) :
    writer.identifier name = writer.dialect.quoteIdentifier name := by
  rw [identifier, if_pos quotes]

theorem column_quoted (quotes : writer.options.quoteIdentifiers = true) (column : Column) :
    writer.column column = writer.dialect.quoteColumn (writer.shown column) := by
  have quoted := identifier_quoted quotes
  obtain ⟨_ | reference, name⟩ := column
  · simp only [Writer.column, bareColumn, shown, ite_self, quoted, Dialect.quoteColumn]
  · simp only [Writer.column, bareColumn, shown, quoted]
    split <;> rfl

/-- A quoted identifier is read as its name whatever the name holds, and what stands behind it is left
whole. So with quotes a written column is one identifier, or two joined by a dot, and its names are read
back from any text that it stands in. -/
theorem names_recovered :
    (∀ (dialect : Dialect) (text name rest : String),
      dialect.identifier? text = some (name, rest) ↔
        text = dialect.quoteIdentifier name ++ rest ∧
          rest.toList.head? ≠ some dialect.closingQuote) ∧
    ∀ (writer : Writer) (column : Column), writer.options.quoteIdentifiers = true →
      writer.bareColumn column = writer.dialect.quoteIdentifier column.name ∧
        writer.column column = writer.dialect.quoteColumn (writer.shown column) ∧
        ∀ rest, writer.dialect.Closes (writer.shown column) rest →
          writer.dialect.column? (writer.column column ++ rest) =
            some (writer.shown column, rest) := by
  refine ⟨fun dialect text name rest => Dialect.identifier?_eq_some_iff, ?_⟩
  intro writer column quotes
  refine ⟨identifier_quoted quotes column.name, column_quoted quotes column, ?_⟩
  intro rest closes
  rw [column_quoted quotes]
  exact Dialect.column?_eq_some_iff.mpr ⟨rfl, closes⟩

/-- Brackets at both ends of the names, and what looks like the end of a column inside of them. -/
theorem names_recovered_brackets :
    let writer : Writer := ⟨.sqlserver, ⟨true, true⟩⟩
    let column : Column := ⟨some "]t].[", "a]] = 1 OR 1 = 1 --]"⟩
    let text := "[]]t]].[].[a]]]] = 1 OR 1 = 1 --]]]"
    writer.column column = text ∧ writer.dialect.Closes (writer.shown column) " IS NULL" ∧
      writer.dialect.column? (text ++ " IS NULL") = some (column, " IS NULL") := by
  intro writer column text
  have written : writer.column column = text := by decide
  have closes : writer.dialect.Closes (writer.shown column) " IS NULL" := by
    refine ⟨by decide, ?_⟩
    intro none
    cases none
  obtain ⟨_, _, recovered⟩ := names_recovered.2 writer column rfl
  have found := recovered " IS NULL" closes
  rw [written] at found
  exact ⟨written, closes, found⟩

end Writer

end BindPlan
