import BindPlan.Condition.Basic

/-!
Conditions laid out as lexemes. AND binds tighter than OR, so an OR below an AND is put in
parentheses, and so is what NOT applies to.
-/

namespace BindPlan

/-- A test as it is written. Lists and ranges alone have a text for their negation. -/
inductive Atom where
  | plain (test : Test)
  | notIn (operand : Expression) (values : List Expression)
  | notBetween (operand low high : Expression)
deriving DecidableEq, Repr

namespace Atom

/-- The positive test of an atom. -/
def test : Atom → Test
  | plain test => test
  | notIn operand values => .isIn operand values
  | notBetween operand low high => .between operand low high

/-- The atom says the opposite of its test. -/
def negated : Atom → Bool
  | plain _ => false
  | notIn _ _ | notBetween _ _ _ => true

end Atom

inductive Lexeme where
  | opening
  | closing
  | not
  | and
  | or
  | atom (atom : Atom)
deriving DecidableEq, Repr

namespace Condition

def parenthesized (lexemes : List Lexeme) : List Lexeme := .opening :: lexemes ++ [.closing]

/-- An OR is the only operand that AND would tear apart. -/
def isOr : Condition → Bool
  | or _ _ => true
  | _ => false

/-- The lexemes of a condition in textual order. -/
def lexemes : Condition → List Lexeme
  | test found => [.atom (.plain found)]
  | not (test (.isIn operand values)) => [.atom (.notIn operand values)]
  | not (test (.between operand low high)) => [.atom (.notBetween operand low high)]
  | not (nested condition) => .not :: parenthesized condition.lexemes
  | not condition => .not :: parenthesized condition.lexemes
  | and left right =>
      (if left.isOr then parenthesized left.lexemes else left.lexemes)
        ++ .and :: if right.isOr then parenthesized right.lexemes else right.lexemes
  | or left right => left.lexemes ++ .or :: right.lexemes
  | nested condition => parenthesized condition.lexemes

/-- The operand of NOT is put in parentheses, unless it is a list or a range or has parentheses of its
own. -/
theorem lexemes_not {operand : Condition}
    (noList : ∀ left values, operand ≠ test (.isIn left values))
    (noRange : ∀ left low high, operand ≠ test (.between left low high))
    (notNested : ∀ inner, operand ≠ nested inner) :
    (not operand).lexemes = .not :: parenthesized operand.lexemes :=
  lexemes.eq_5 operand noList noRange notNested

end Condition

end BindPlan
