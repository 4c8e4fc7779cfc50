import BindPlan.Condition.Basic

namespace BindPlan

inductive Truth where
  | false
  | unknown
  | true
deriving DecidableEq, Repr

namespace Truth

def not : Truth → Truth
  | .false => .true
  | .unknown => .unknown
  | .true => .false

def and : Truth → Truth → Truth
  | .false, _ | _, .false => .false
  | .true, .true => .true
  | _, _ => .unknown

def or : Truth → Truth → Truth
  | .true, _ | _, .true => .true
  | .false, .false => .false
  | _, _ => .unknown

/-- The truth value or its negation. -/
def negateIf (negated : Bool) (truth : Truth) : Truth := if negated then truth.not else truth

def ofBool (value : Bool) : Truth := if value then .true else .false

theorem and_assoc (first second third : Truth) :
    (first.and second).and third = first.and (second.and third) := by
  cases first <;> cases second <;> cases third <;> rfl

theorem or_assoc (first second third : Truth) :
    (first.or second).or third = first.or (second.or third) := by
  cases first <;> cases second <;> cases third <;> rfl

end Truth

/-- The truth of two joined conditions. -/
def Connective.truth : Connective → Truth → Truth → Truth
  | .and => .and
  | .or => .or

namespace Condition

/-- The truth of a condition under an assignment of truth values to its tests. -/
def truth (assignment : Test → Truth) : Condition → Truth
  | test found => assignment found
  | not condition => (condition.truth assignment).not
  | and left right => (left.truth assignment).and (right.truth assignment)
  | or left right => (left.truth assignment).or (right.truth assignment)
  | nested condition => condition.truth assignment

/-- The tests of a condition in textual order. -/
def tests : Condition → List Test
  | test found => [found]
  | not condition | nested condition => condition.tests
  | and left right | or left right => left.tests ++ right.tests

@[simp] theorem truth_join (assignment : Test → Truth) (connective : Connective)
    (left right : Condition) :
    (join connective left right).truth assignment =
      connective.truth (left.truth assignment) (right.truth assignment) := by
  cases connective <;> rfl

@[simp] theorem truth_negateIf (assignment : Test → Truth) (negated : Bool)
    (condition : Condition) :
    (negateIf negated condition).truth assignment =
      (condition.truth assignment).negateIf negated := by
  cases negated <;> rfl

end Condition

end BindPlan
