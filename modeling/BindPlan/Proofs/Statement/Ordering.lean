import BindPlan.Proofs.Dialect.Pagination
import BindPlan.Statement.Writer

namespace BindPlan

/-- How a database compares rows: the values of their columns, which may be null, and the place of nulls
under a key that does not state it. -/
structure Sorting (Row Item : Type) where
  value : Row → Column → Option Item
  compare : Column → Item → Item → Ordering
  nullsFirst : Column → Direction → Bool

namespace Sorting

variable {Item : Type}

/-- Two values where nulls come first or last. -/
def placed (nullsFirst : Bool) (compare : Item → Item → Ordering) :
    Option Item → Option Item → Ordering
  | none, none => .eq
  | none, some _ => if nullsFirst then .lt else .gt
  | some _, none => if nullsFirst then .gt else .lt
  | some first, some second => compare first second

end Sorting

/-- What the direction of a key makes of a comparison. -/
def Direction.apply : Direction → Ordering → Ordering
  | asc, order => order
  | desc, order => order.swap

/-- A key of an ORDER BY clause as a database reads it. -/
inductive SortTerm where
  /-- The values of a column. The place of nulls may be stated. -/
  | column (column : Column) (direction : Direction) (nullsFirst : Option Bool)
  /-- One number for the rows in which the column is null, and another one for all others. -/
  | nullCase (column : Column) (whenNull otherwise : Nat)
deriving DecidableEq, Repr

namespace SortTerm

section Comparison

variable {Row Item : Type} (sorting : Sorting Row Item)

/-- The order of two rows under a key. -/
def order (first second : Row) : SortTerm → Ordering
  | column name direction nullsFirst =>
      Sorting.placed (nullsFirst.getD (sorting.nullsFirst name direction))
        (fun one other => direction.apply (sorting.compare name one other))
        (sorting.value first name) (sorting.value second name)
  | nullCase name whenNull otherwise =>
      let number (row : Row) : Nat := if (sorting.value row name).isNone then whenNull else otherwise
      compare (number first) (number second)

/-- The order of two rows under the first key that tells them apart. -/
def orderAll (first second : Row) : List SortTerm → Ordering
  | [] => .eq
  | term :: rest => (term.order sorting first second).then (orderAll first second rest)

theorem orderAll_append (first second : Row) (before behind : List SortTerm) :
    orderAll sorting first second (before ++ behind) =
      (orderAll sorting first second before).then (orderAll sorting first second behind) := by
  induction before with
  | nil => exact Ordering.eq_then.symm
  | cons term rest inductionHypothesis =>
      rw [List.cons_append, orderAll, orderAll, inductionHypothesis, Ordering.then_assoc]

end Comparison

/-- The key says where nulls come. -/
def statesNulls : SortTerm → Bool
  | column _ _ nullsFirst => nullsFirst.isSome
  | nullCase _ _ _ => false

end SortTerm

/-- The key that a database is to order by, the place of nulls being stated where it is asked for. -/
def Statement.OrderKey.asked (key : OrderKey) : SortTerm :=
  .column key.column key.direction (match key.nulls with
    | .native => none
    | .first => some true
    | .last => some false)

/-- A character of an ORDER BY clause, or the whole text of a column. -/
inductive SortGlyph where
  | char (char : Char)
  | column (column : Column)
deriving DecidableEq, Repr

namespace SortGlyph

def char? : SortGlyph → Option Char
  | char found => some found
  | column _ => none

/-- The glyphs of a text without columns. -/
def ofText (text : String) : List SortGlyph := text.toList.map char

end SortGlyph

/-- A word of an ORDER BY clause. -/
inductive SortWord where
  | column (column : Column)
  | number (count : Nat)
  | keyword (keyword : String)
deriving DecidableEq, Repr

/-- A word is a column, or a row of characters. -/
def SortWord.ofGlyphs? : List SortGlyph → Option SortWord
  | [.column found] => some (.column found)
  | glyphs => do
      let chars ← glyphs.mapM SortGlyph.char?
      return match PageWord.digits? chars with
        | some count => .number count
        | none => .keyword (String.ofList chars)

namespace SortTerm

def direction? : String → Option Direction
  | "ASC" => some .asc
  | "DESC" => some .desc
  | _ => none

def nullsFirst? : String → Option Bool
  | "FIRST" => some true
  | "LAST" => some false
  | _ => none

/-- The key that a row of words stands for. -/
def ofWords? : List SortWord → Option SortTerm
  | [.column name, .keyword direction] => do return column name (← direction? direction) none
  | [.column name, .keyword direction, .keyword "NULLS", .keyword place] => do
      return column name (← direction? direction) (some (← nullsFirst? place))
  | [.keyword "CASE", .keyword "WHEN", .column name, .keyword "IS", .keyword "NULL", .keyword "THEN",
      .number whenNull, .keyword "ELSE", .number otherwise, .keyword "END"] =>
      some (nullCase name whenNull otherwise)
  | _ => none

/-- The key that a text stands for. Any number of blanks may stand between words. -/
def ofGlyphs? (glyphs : List SortGlyph) : Option SortTerm := do
  let words ← ((glyphs.splitOn (.char ' ')).filter fun word => !word.isEmpty).mapM SortWord.ofGlyphs?
  ofWords? words

/-- The keys of an ORDER BY clause, which have commas between them. No clause asks for no order. -/
def readClause? : List SortGlyph → Option (List SortTerm)
  | [] => some []
  | glyphs => do
      let keys ← (SortGlyph.ofText " ORDER BY ").isPrefixOf? glyphs
      (keys.splitOn (.char ',')).mapM ofGlyphs?

end SortTerm

namespace SortKey

/-- The glyphs of a written key. -/
def glyphs : SortKey → List SortGlyph
  | column name direction => .column name :: SortGlyph.ofText (" " ++ direction.keyword)
  | placed name direction nullsFirst =>
      .column name :: SortGlyph.ofText (" " ++ direction.keyword
        ++ if nullsFirst then " NULLS FIRST" else " NULLS LAST")
  | nullFlag name nullsFirst =>
      SortGlyph.ofText "CASE WHEN " ++ .column name :: SortGlyph.ofText (" IS NULL THEN "
        ++ if nullsFirst then "0 ELSE 1 END" else "1 ELSE 0 END")

/-- The key as it is read. -/
def term : SortKey → SortTerm
  | column name direction => .column name direction none
  | placed name direction nullsFirst => .column name direction (some nullsFirst)
  | nullFlag name nullsFirst =>
      if nullsFirst then .nullCase name 0 1 else .nullCase name 1 0

theorem ofGlyphs?_glyphs (key : SortKey) : SortTerm.ofGlyphs? key.glyphs = some key.term := by
  cases key with
  | column name direction => cases direction <;> rfl
  | placed name direction nullsFirst => cases direction <;> cases nullsFirst <;> rfl
  | nullFlag name nullsFirst => cases nullsFirst <;> rfl

/-- No comma stands within a key. -/
theorem comma_not_mem_glyphs (key : SortKey) : SortGlyph.char ',' ∉ key.glyphs := by
  cases key with
  | column name direction => cases direction <;> simp [glyphs, SortGlyph.ofText, Direction.keyword]
  | placed name direction nullsFirst =>
      cases direction <;> cases nullsFirst <;> simp [glyphs, SortGlyph.ofText, Direction.keyword]
  | nullFlag name nullsFirst => cases nullsFirst <;> simp [glyphs, SortGlyph.ofText]

end SortKey

namespace SortTerm

/-- A blank in front of a key says nothing. -/
theorem ofGlyphs?_blank (glyphs : List SortGlyph) : ofGlyphs? (.char ' ' :: glyphs) = ofGlyphs? glyphs := by
  rw [ofGlyphs?, ofGlyphs?, List.splitOn, List.splitOnP_cons_eq_if_modifyHead]
  rfl

end SortTerm

namespace SortKey

/-- The glyphs of keys with a comma and a blank between them. -/
def joined (keys : List SortKey) : List SortGlyph :=
  [SortGlyph.char ',', .char ' '].intercalate (keys.map glyphs)

theorem joined_cons (key : SortKey) (rest : List SortKey) :
    joined (key :: rest) =
      [SortGlyph.char ','].intercalate (key.glyphs :: rest.map fun other => .char ' ' :: other.glyphs) := by
  induction rest generalizing key with
  | nil => simp [joined]
  | cons other rest inductionHypothesis =>
      have blank (word : List SortGlyph) (words : List (List SortGlyph)) :
          [SortGlyph.char ','].intercalate ((.char ' ' :: word) :: words) =
            .char ' ' :: [SortGlyph.char ','].intercalate (word :: words) := by
        cases words <;> simp [List.intercalate_cons_cons]
      rw [List.map_cons, List.intercalate_cons_cons, blank, ← inductionHypothesis, joined,
        List.map_cons, List.map_cons, List.intercalate_cons_cons, ← List.map_cons]
      simp [joined]

/-- The glyphs of the clause that orders by some keys. -/
def clause (keys : List SortKey) : List SortGlyph :=
  if keys.isEmpty then [] else SortGlyph.ofText " ORDER BY " ++ joined keys

/-- The commas between keys tell them apart. -/
theorem readClause?_clause (keys : List SortKey) :
    SortTerm.readClause? (clause keys) = some (keys.map term) := by
  cases keys with
  | nil => rfl
  | cons key rest =>
      have apart : ∀ word ∈ key.glyphs :: rest.map (fun other => .char ' ' :: other.glyphs),
          SortGlyph.char ',' ∉ word := by
        simp [comma_not_mem_glyphs]
      have words : (joined (key :: rest)).splitOn (.char ',') =
          key.glyphs :: rest.map fun other => .char ' ' :: other.glyphs := by
        rw [joined_cons, List.splitOn_intercalate _ apart (by simp)]
      have behind : rest.mapM (fun other => SortTerm.ofGlyphs? (.char ' ' :: other.glyphs)) =
          some (rest.map term) := by
        simp only [SortTerm.ofGlyphs?_blank, ofGlyphs?_glyphs]
        exact List.mapM_pure
      have read : SortTerm.readClause? (clause (key :: rest)) =
          ((joined (key :: rest)).splitOn (.char ',')).mapM SortTerm.ofGlyphs? := rfl
      rw [read, words, List.mapM_cons, ofGlyphs?_glyphs, List.mapM_map]
      exact congrArg (· >>= fun terms => some (key.term :: terms)) behind

end SortKey

namespace Writer

/-- The text of a row of glyphs. -/
def sortText (writer : Writer) : List SortGlyph → String
  | [] => ""
  | .char char :: rest => String.singleton char ++ writer.sortText rest
  | .column column :: rest => writer.column column ++ writer.sortText rest

variable (writer : Writer)

theorem sortText_append (before behind : List SortGlyph) :
    writer.sortText (before ++ behind) = writer.sortText before ++ writer.sortText behind := by
  induction before with
  | nil => exact String.empty_append.symm
  | cons glyph rest inductionHypothesis =>
      cases glyph <;> rw [List.cons_append, sortText, sortText, inductionHypothesis, String.append_assoc]

theorem sortText_ofText (text : String) : writer.sortText (SortGlyph.ofText text) = text := by
  have spelled (chars : List Char) : writer.sortText (chars.map SortGlyph.char) = String.ofList chars := by
    induction chars with
    | nil => rfl
    | cons char rest inductionHypothesis =>
        rw [List.map_cons, sortText, inductionHypothesis]
        simp
  rw [SortGlyph.ofText, spelled, String.ofList_toList]

theorem sortText_glyphs (key : SortKey) : writer.sortText key.glyphs = writer.sortKey key := by
  cases key with
  | column name direction => rw [SortKey.glyphs, sortText, sortText_ofText, sortKey, String.append_assoc]
  | placed name direction nullsFirst =>
      simp only [SortKey.glyphs, sortText, sortText_ofText, sortKey, String.append_assoc]
  | nullFlag name nullsFirst =>
      rw [SortKey.glyphs, sortText_append, sortText, sortText_ofText, sortText_ofText, sortKey,
        String.append_assoc, String.append_assoc]

theorem sortText_joined (keys : List SortKey) :
    writer.sortText (SortKey.joined keys) = ", ".intercalate (keys.map writer.sortKey) := by
  induction keys with
  | nil => rfl
  | cons key rest inductionHypothesis =>
      cases rest with
      | nil => simp [SortKey.joined, sortText_glyphs]
      | cons other rest =>
          have comma : writer.sortText [.char ',', .char ' '] = ", " := writer.sortText_ofText ", "
          rw [List.map_cons, List.map_cons, String.intercalate_cons_cons, ← List.map_cons,
            ← inductionHypothesis, SortKey.joined, List.map_cons, List.map_cons,
            List.intercalate_cons_cons, sortText_append, sortText_append, sortText_glyphs, comma]
          rfl

theorem sortKeys_ne_nil (key : Statement.OrderKey) : writer.sortKeys key ≠ [] := by
  obtain ⟨column, direction, nulls⟩ := key
  cases nulls with
  | native => simp [sortKeys]
  | _ => cases places : writer.dialect.ordersNulls <;> simp [sortKeys, places]

theorem sortText_clause (keys : List Statement.OrderKey) :
    writer.sortText (SortKey.clause (keys.flatMap writer.sortKeys)) = writer.orderClause keys := by
  have empty : (keys.flatMap writer.sortKeys).isEmpty = keys.isEmpty := by
    cases keys <;> simp [sortKeys_ne_nil]
  rw [SortKey.clause, orderClause, empty]
  cases keys.isEmpty with
  | true => rfl
  | false =>
      rw [if_neg Bool.false_ne_true, if_neg Bool.false_ne_true, sortText_append, sortText_ofText,
        sortText_joined]

/-- A flag in front of a column puts nulls where a stated place would. Where both rows have a null, or
neither has, the flag tells nothing apart. -/
theorem orderAll_sortKeys (key : Statement.OrderKey) {Row Item : Type} (sorting : Sorting Row Item)
    (first second : Row) :
    SortTerm.orderAll sorting first second ((writer.sortKeys key).map SortKey.term) =
      key.asked.order sorting first second := by
  obtain ⟨column, direction, nulls⟩ := key
  -- Where one value is null, the flag decides, and otherwise it ties.
  have flagged (nullsFirst : Bool) :
      SortTerm.orderAll sorting first second
          ([.nullFlag column nullsFirst, .column column direction].map SortKey.term) =
        SortTerm.order sorting first second (.column column direction (some nullsFirst)) := by
    have less : compare 0 1 = Ordering.lt := rfl
    have more : compare 1 0 = Ordering.gt := rfl
    cases one : sorting.value first column <;> cases other : sorting.value second column <;>
      cases nullsFirst <;>
      simp [SortTerm.orderAll, SortTerm.order, SortKey.term, Sorting.placed, one, other, less, more]
  have single (term : SortTerm) :
      SortTerm.orderAll sorting first second [term] = term.order sorting first second :=
    Ordering.then_eq
  have stated (nullsFirst : Bool) :
      SortTerm.orderAll sorting first second
          ((if writer.dialect.ordersNulls then [SortKey.placed column direction nullsFirst]
            else [.nullFlag column nullsFirst, .column column direction]).map SortKey.term) =
        SortTerm.order sorting first second (.column column direction (some nullsFirst)) := by
    cases writer.dialect.ordersNulls with
    | true => exact single _
    | false => exact flagged nullsFirst
  cases nulls with
  | native => exact single _
  | first => exact stated true
  | last => exact stated false

theorem orderAll_flatMap_sortKeys (keys : List Statement.OrderKey) {Row Item : Type}
    (sorting : Sorting Row Item) (first second : Row) :
    SortTerm.orderAll sorting first second ((keys.flatMap writer.sortKeys).map SortKey.term) =
      SortTerm.orderAll sorting first second (keys.map Statement.OrderKey.asked) := by
  induction keys with
  | nil => rfl
  | cons key rest inductionHypothesis =>
      rw [List.flatMap_cons, List.map_append, SortTerm.orderAll_append, orderAll_sortKeys,
        inductionHypothesis]
      rfl

/-- Without the means to state the place of nulls, no key states it. -/
theorem statesNulls_sortKeys (places : writer.dialect.ordersNulls = false) (key : Statement.OrderKey)
    {sortKey : SortKey} (member : sortKey ∈ writer.sortKeys key) : sortKey.term.statesNulls = false := by
  obtain ⟨column, direction, nulls⟩ := key
  cases nulls with
  | native =>
      obtain rfl := List.mem_singleton.mp member
      rfl
  | _ =>
      have kinds : (∃ nullsFirst, sortKey = .nullFlag column nullsFirst) ∨
          sortKey = .column column direction := by
        simp only [sortKeys, places] at member
        obtain rfl | other := List.mem_cons.mp member
        · exact .inl ⟨_, rfl⟩
        · exact .inr (List.mem_singleton.mp other)
      obtain ⟨nullsFirst, rfl⟩ | rfl := kinds
      · cases nullsFirst <;> rfl
      · rfl

/-- Rows are ordered by the written keys as they are by the keys that were asked for, wherever a database
puts nulls by itself. MySQL and SQL Server are never told where to put them. -/
theorem orderClause_ordered (keys : List Statement.OrderKey) :
    ∃ glyphs terms, writer.sortText glyphs = writer.orderClause keys ∧
      SortTerm.readClause? glyphs = some terms ∧
      (writer.dialect = .mysql ∨ writer.dialect = .sqlserver →
        ∀ term ∈ terms, term.statesNulls = false) ∧
      ∀ {Row Item : Type} (sorting : Sorting Row Item) (first second : Row),
        SortTerm.orderAll sorting first second terms =
          SortTerm.orderAll sorting first second (keys.map Statement.OrderKey.asked) := by
  refine ⟨SortKey.clause (keys.flatMap writer.sortKeys), (keys.flatMap writer.sortKeys).map SortKey.term,
    writer.sortText_clause keys, SortKey.readClause?_clause _, ?_, fun sorting first second =>
      writer.orderAll_flatMap_sortKeys keys sorting first second⟩
  intro silent term member
  have places : writer.dialect.ordersNulls = false := by
    obtain mysql | sqlserver := silent
    · rw [mysql]
      rfl
    · rw [sqlserver]
      rfl
  obtain ⟨sortKey, written, rfl⟩ := List.mem_map.mp member
  obtain ⟨key, _, one⟩ := List.mem_flatMap.mp written
  exact writer.statesNulls_sortKeys places key one

/-- A column may be asked for twice, with nulls in another place each time. -/
theorem orderClause_ordered_twice :
    ∃ glyphs terms,
      (Writer.mk .mysql {}).sortText glyphs =
        " ORDER BY CASE WHEN rank IS NULL THEN 1 ELSE 0 END, rank DESC, " ++
          "CASE WHEN rank IS NULL THEN 0 ELSE 1 END, rank ASC, id ASC" ∧
      SortTerm.readClause? glyphs = some terms ∧
      (∀ term ∈ terms, term.statesNulls = false) ∧
      ∀ {Row Item : Type} (sorting : Sorting Row Item) (first second : Row),
        SortTerm.orderAll sorting first second terms =
          SortTerm.orderAll sorting first second
            [.column ⟨none, "rank"⟩ .desc (some false), .column ⟨none, "rank"⟩ .asc (some true),
              .column ⟨none, "id"⟩ .asc none] := by
  let keys : List Statement.OrderKey :=
    [⟨⟨none, "rank"⟩, .desc, .last⟩, ⟨⟨none, "rank"⟩, .asc, .first⟩, ⟨⟨none, "id"⟩, .asc, .native⟩]
  obtain ⟨glyphs, terms, text, read, silent, ordered⟩ := (Writer.mk .mysql {}).orderClause_ordered keys
  have clause : (Writer.mk .mysql {}).orderClause keys =
      " ORDER BY CASE WHEN rank IS NULL THEN 1 ELSE 0 END, rank DESC, " ++
        "CASE WHEN rank IS NULL THEN 0 ELSE 1 END, rank ASC, id ASC" := by decide
  exact ⟨glyphs, terms, text.trans clause, read, silent (.inl rfl), ordered⟩

end Writer

end BindPlan
