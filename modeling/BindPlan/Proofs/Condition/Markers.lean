import BindPlan.Proofs.Condition.Reading
import BindPlan.Proofs.Fragment

namespace BindPlan

namespace Writer

variable (writer : Writer)

@[simp] theorem markers_expression (expression : Expression) :
    (writer.expression expression).markers = expression.markers := by
  induction expression with
  | upper operand inductionHypothesis =>
      rw [Writer.expression, Fragment.markers_append, Fragment.markers_append, inductionHypothesis,
        Fragment.markers_ofText, Fragment.markers_ofText, List.append_nil, List.nil_append]
      rfl
  | _ => rfl

theorem markers_expressions (expressions : List Expression) :
    (writer.expressions expressions).markers = expressions.flatMap Expression.markers := by
  rw [Writer.expressions, Fragment.markers_joined, List.flatMap_map]
  simp only [markers_expression]

theorem markers_listed (negated : Bool) (operand : Expression) (values : List Expression) :
    (writer.listed negated operand values).markers = (Test.isIn operand values).markers := by
  simp [Writer.listed, Test.markers, markers_expressions]

theorem markers_ranged (negated : Bool) (operand low high : Expression) :
    (writer.ranged negated operand low high).markers = (Test.between operand low high).markers := by
  simp [Writer.ranged, Test.markers]

theorem markers_test {test : Test} {fragment : Fragment}
    (written : writer.test test = .ok fragment) : fragment.markers = test.markers := by
  cases test with
  | contains left right =>
      rw [Writer.test] at written
      split at written
      · cases written
        simp [Test.markers]
      · cases written
  | isIn operand values =>
      cases written
      exact writer.markers_listed false operand values
  | between operand low high =>
      cases written
      exact writer.markers_ranged false operand low high
  | _ =>
      cases written
      simp [Test.markers]

theorem markers_atom {atom : Atom} {fragment : Fragment}
    (written : writer.atom atom = .ok fragment) : fragment.markers = atom.test.markers := by
  cases atom with
  | plain test => exact writer.markers_test written
  | notIn operand values =>
      cases written
      exact writer.markers_listed true operand values
  | notBetween operand low high =>
      cases written
      exact writer.markers_ranged true operand low high

theorem markers_lexemes {lexemes : List Lexeme} {fragment : Fragment}
    (written : writer.lexemes lexemes = .ok fragment) :
    fragment.markers = (Condition.testsOf lexemes).flatMap Test.markers := by
  induction lexemes generalizing fragment with
  | nil =>
      cases written
      rfl
  | cons lexeme rest inductionHypothesis =>
      obtain ⟨first, head, written⟩ := bind_eq_ok.mp written
      obtain ⟨second, tail, written⟩ := bind_eq_ok.mp written
      cases written
      have ends : Condition.testsOf (lexeme :: rest) =
          Condition.testsOf [lexeme] ++ Condition.testsOf rest :=
        Condition.testsOf_append [lexeme] rest
      rw [Fragment.markers_append, inductionHypothesis tail, ends, List.flatMap_append]
      congr 1
      cases lexeme with
      | atom found =>
          rw [writer.markers_atom head]
          exact (List.append_nil _).symm
      | _ =>
          cases head
          rfl

end Writer

namespace Condition

theorem markers_eq_tests (condition : Condition) :
    condition.markers = condition.tests.flatMap Test.markers := by
  induction condition with
  | test found => exact (List.append_nil _).symm
  | not inner inductionHypothesis => exact inductionHypothesis
  | nested inner inductionHypothesis => exact inductionHypothesis
  | and left right leftHypothesis rightHypothesis =>
      rw [markers, leftHypothesis, rightHypothesis, ← List.flatMap_append]
      rfl
  | or left right leftHypothesis rightHypothesis =>
      rw [markers, leftHypothesis, rightHypothesis, ← List.flatMap_append]
      rfl

/-- The markers of a condition are listed in textual order. -/
theorem markers_written {writer : Writer} {condition : Condition} {fragment : Fragment}
    (written : writer.condition condition = .ok fragment) :
    fragment.markers = condition.markers := by
  rw [writer.markers_lexemes written, testsOf_lexemes, markers_eq_tests]

end Condition

end BindPlan
