import BindPlan.Proofs.Condition.Markers

namespace BindPlan

namespace Expression

/-- The expression with its marker changed, if it holds one. -/
def mapMarkers (change : Marker → Marker) : Expression → Expression
  | column found => column found
  | marker found => marker (change found)
  | bool truth => bool truth
  | int integer => int integer
  | upper operand => upper (operand.mapMarkers change)

end Expression

namespace Test

def mapMarkers (change : Marker → Marker) : Test → Test
  | compare comparison left right =>
      compare comparison (left.mapMarkers change) (right.mapMarkers change)
  | contains left right => contains (left.mapMarkers change) (right.mapMarkers change)
  | isIn operand values =>
      isIn (operand.mapMarkers change) (values.map (Expression.mapMarkers change))
  | between operand low high =>
      between (operand.mapMarkers change) (low.mapMarkers change) (high.mapMarkers change)
  | isNull operand => isNull (operand.mapMarkers change)
  | isNotNull operand => isNotNull (operand.mapMarkers change)

end Test

namespace Condition

/-- The condition with its markers changed and its shape as it is. -/
def mapMarkers (change : Marker → Marker) : Condition → Condition
  | test found => test (found.mapMarkers change)
  | not condition => not (condition.mapMarkers change)
  | and left right => and (left.mapMarkers change) (right.mapMarkers change)
  | or left right => or (left.mapMarkers change) (right.mapMarkers change)
  | nested condition => nested (condition.mapMarkers change)

@[simp] theorem isOr_mapMarkers (change : Marker → Marker) (condition : Condition) :
    (condition.mapMarkers change).isOr = condition.isOr := by
  cases condition <;> rfl

end Condition

/-- A marker that tells nothing. -/
def Marker.blank : Marker := ⟨"", .index 0, 0⟩

/-- The condition with its markers erased. -/
def Condition.erased (condition : Condition) : Condition := condition.mapMarkers fun _ => .blank

/-- The segments of text around the markers of a condition whose markers are erased. -/
def Writer.segments (writer : Writer) (erased : Condition) : Except Error (List String) :=
  Fragment.literals <$> writer.condition erased

def Atom.mapMarkers (change : Marker → Marker) : Atom → Atom
  | plain test => plain (test.mapMarkers change)
  | notIn operand values =>
      notIn (operand.mapMarkers change) (values.map (Expression.mapMarkers change))
  | notBetween operand low high =>
      notBetween (operand.mapMarkers change) (low.mapMarkers change) (high.mapMarkers change)

/-- The lexeme with the markers of its atom changed, if it is one. -/
def Lexeme.mapMarkers (change : Marker → Marker) : Lexeme → Lexeme
  | atom found => atom (found.mapMarkers change)
  | lexeme => lexeme

namespace Condition

variable (change : Marker → Marker)

theorem parenthesized_mapMarkers (lexemes : List Lexeme) :
    parenthesized (lexemes.map (Lexeme.mapMarkers change)) =
      (parenthesized lexemes).map (Lexeme.mapMarkers change) := by
  simp [parenthesized, Lexeme.mapMarkers]

/-- The layout of a condition does not depend on its markers. -/
theorem lexemes_mapMarkers (condition : Condition) :
    (condition.mapMarkers change).lexemes = condition.lexemes.map (Lexeme.mapMarkers change) := by
  induction condition using Condition.lexemes.induct with
  | case1 found => rfl
  | case2 operand values => rfl
  | case3 operand low high => rfl
  | case4 inner inductionHypothesis =>
      rw [mapMarkers, mapMarkers, lexemes, lexemes, inductionHypothesis, parenthesized_mapMarkers]
      rfl
  | case5 inner noList noRange notNested inductionHypothesis =>
      have general : (not (inner.mapMarkers change)).lexemes =
          .not :: parenthesized (inner.mapMarkers change).lexemes := by
        cases inner with
        | test found =>
            cases found with
            | isIn operand values => exact absurd rfl (noList operand values)
            | between operand low high => exact absurd rfl (noRange operand low high)
            | _ => rfl
        | nested condition => exact absurd rfl (notNested condition)
        | _ => rfl
      rw [mapMarkers, general, lexemes_not noList noRange notNested, inductionHypothesis,
        parenthesized_mapMarkers]
      rfl
  | case6 left right leftHypothesis rightHypothesis =>
      have operand (side : Condition)
          (same : (side.mapMarkers change).lexemes = side.lexemes.map (Lexeme.mapMarkers change)) :
          (if (side.mapMarkers change).isOr then parenthesized (side.mapMarkers change).lexemes
            else (side.mapMarkers change).lexemes) =
          (if side.isOr then parenthesized side.lexemes else side.lexemes).map
            (Lexeme.mapMarkers change) := by
        rw [isOr_mapMarkers, same, parenthesized_mapMarkers]
        split <;> rfl
      rw [mapMarkers, lexemes, lexemes, operand left leftHypothesis, operand right rightHypothesis,
        List.map_append]
      rfl
  | case7 left right leftHypothesis rightHypothesis =>
      rw [mapMarkers, lexemes, lexemes, leftHypothesis, rightHypothesis, List.map_append]
      rfl
  | case8 inner inductionHypothesis =>
      rw [mapMarkers, lexemes, lexemes, inductionHypothesis, parenthesized_mapMarkers]

end Condition

namespace Writer

variable (writer : Writer) (change : Marker → Marker)

@[simp] theorem expression_mapMarkers (expression : Expression) :
    writer.expression (expression.mapMarkers change) =
      (writer.expression expression).mapMarkers change := by
  induction expression with
  | upper operand inductionHypothesis =>
      rw [Expression.mapMarkers, Writer.expression, inductionHypothesis, Writer.expression,
        Fragment.mapMarkers_append, Fragment.mapMarkers_append]
      rfl
  | _ => rfl

@[simp] theorem expressions_mapMarkers (expressions : List Expression) :
    writer.expressions (expressions.map (Expression.mapMarkers change)) =
      (writer.expressions expressions).mapMarkers change := by
  rw [Writer.expressions, Writer.expressions, Fragment.mapMarkers_joined, List.map_map, List.map_map]
  congr 1
  apply List.map_congr_left
  intro expression _
  exact writer.expression_mapMarkers change expression

@[simp] theorem listed_mapMarkers (negated : Bool) (operand : Expression)
    (values : List Expression) :
    writer.listed negated (operand.mapMarkers change) (values.map (Expression.mapMarkers change)) =
      (writer.listed negated operand values).mapMarkers change := by
  simp [Writer.listed]

@[simp] theorem ranged_mapMarkers (negated : Bool) (operand low high : Expression) :
    writer.ranged negated (operand.mapMarkers change) (low.mapMarkers change)
        (high.mapMarkers change) =
      (writer.ranged negated operand low high).mapMarkers change := by
  simp [Writer.ranged]

theorem test_mapMarkers (test : Test) :
    writer.test (test.mapMarkers change) = Fragment.mapMarkers change <$> writer.test test := by
  cases test with
  | contains left right =>
      rw [Test.mapMarkers, Writer.test, Writer.test]
      split
      · simp [Functor.map, Except.map]
      · rfl
  | _ => simp [Test.mapMarkers, Writer.test, Functor.map, Except.map]

theorem atom_mapMarkers (atom : Atom) :
    writer.atom (atom.mapMarkers change) = Fragment.mapMarkers change <$> writer.atom atom := by
  cases atom with
  | plain test => exact writer.test_mapMarkers change test
  | _ => simp [Atom.mapMarkers, Writer.atom, Functor.map, Except.map]

theorem lexeme_mapMarkers (lexeme : Lexeme) :
    writer.lexeme (lexeme.mapMarkers change) =
      Fragment.mapMarkers change <$> writer.lexeme lexeme := by
  cases lexeme with
  | atom found => exact writer.atom_mapMarkers change found
  | _ => rfl

theorem lexemes_mapMarkers (lexemes : List Lexeme) :
    writer.lexemes (lexemes.map (Lexeme.mapMarkers change)) =
      Fragment.mapMarkers change <$> writer.lexemes lexemes := by
  induction lexemes with
  | nil => rfl
  | cons lexeme rest inductionHypothesis =>
      rw [List.map_cons, Writer.lexemes, Writer.lexemes, lexeme_mapMarkers, inductionHypothesis]
      cases writer.lexeme lexeme with
      | error error => rfl
      | ok first =>
          cases writer.lexemes rest with
          | error error => rfl
          | ok others => exact congrArg Except.ok (Fragment.mapMarkers_append change first others).symm

/-- A condition with changed markers is written as before, with the changed markers in place of the
old ones. -/
theorem condition_mapMarkers (condition : Condition) :
    writer.condition (condition.mapMarkers change) =
      Fragment.mapMarkers change <$> writer.condition condition := by
  rw [Writer.condition, Writer.condition, condition.lexemes_mapMarkers, lexemes_mapMarkers]

end Writer

namespace Condition

/-- A written condition is the placeholders of its markers in order, between segments of text that are
those of the condition with its markers erased. -/
theorem written_interleaved (writer : Writer) (condition : Condition) (fragment : Fragment)
    (written : writer.condition condition = .ok fragment) :
    ∃ segments, writer.segments condition.erased = .ok segments ∧
      segments.length = condition.markers.length + 1 ∧
      fragment.sql = Fragment.interleave segments (condition.markers.map Marker.placeholder) := by
  have markers : fragment.markers = condition.markers := markers_written written
  refine ⟨fragment.literals, ?_, ?_, ?_⟩
  · rw [Writer.segments, erased, writer.condition_mapMarkers, written]
    exact congrArg Except.ok (fragment.literals_mapMarkers _)
  · rw [← markers]
    exact fragment.length_literals
  · rw [← markers]
    exact fragment.sql_eq_interleave

/-- Markers stand on both sides of a comparison, and in a list whose negation stands inside its test. -/
theorem written_interleaved_upper :
    let marker (name : String) (ordinal : Nat) : Expression :=
      .marker ⟨"@" ++ name, .name name, ordinal⟩
    let condition : Condition :=
      .and (.or (.compare .notLike (.upper (marker "a" 2)) (.upper (.upper (marker "b" 0))))
          (.test (.isNull (marker "a" 2))))
        (.not (.test (.isIn (marker "c" 7) [.column { name := "d" }, marker "e" 1])))
    let writer : Writer := ⟨.sqlserver, { quoteIdentifiers := true }⟩
    let fragment : Fragment := [.text "(", .text "UPPER(", .slot ⟨"@a", .name "a", 2⟩, .text ")",
      .text " NOT LIKE ", .text "UPPER(", .text "UPPER(", .slot ⟨"@b", .name "b", 0⟩, .text ")",
      .text ")", .text " OR ", .slot ⟨"@a", .name "a", 2⟩, .text " IS NULL", .text ")",
      .text " AND ", .slot ⟨"@c", .name "c", 7⟩, .text " NOT IN (", .text "[d]", .text ", ",
      .slot ⟨"@e", .name "e", 1⟩, .text ")"]
    writer.condition condition = .ok fragment ∧
      ∃ segments, writer.segments condition.erased = .ok segments ∧ segments.length = 6 ∧
        fragment.sql = Fragment.interleave segments ["@a", "@b", "@a", "@c", "@e"] := by
  intro marker condition writer fragment
  have written : writer.condition condition = .ok fragment := rfl
  exact ⟨written, written_interleaved writer condition fragment written⟩

end Condition

end BindPlan
