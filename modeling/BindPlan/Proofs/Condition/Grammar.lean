import BindPlan.Condition.Lexeme
import BindPlan.Proofs.Condition.Truth

namespace BindPlan

/-- What a condition text says, without its parentheses. -/
inductive Formula where
  | atom (atom : Atom)
  | not (formula : Formula)
  | and (left right : Formula)
  | or (left right : Formula)
deriving DecidableEq, Repr

namespace Formula

/-- The truth of a formula. The negation in an atom applies to the truth of its positive test. -/
def truth (assignment : Test → Truth) : Formula → Truth
  | atom found => (assignment found.test).negateIf found.negated
  | not formula => (formula.truth assignment).not
  | and left right => (left.truth assignment).and (right.truth assignment)
  | or left right => (left.truth assignment).or (right.truth assignment)

/-- The formula behind a count of NOTs. -/
def negate : Nat → Formula → Formula
  | 0, formula => formula
  | count + 1, formula => negate count (.not formula)

end Formula

/-- The phrases of the grammar, from the loosest to the tightest. -/
inductive Phrase where
  | disjunction
  | conjunction
  | negation
  | primary
deriving DecidableEq, Repr

/-- A phrase of the grammar derives a formula from a row of lexemes. -/
inductive Derives : Phrase → List Lexeme → Formula → Prop where
  | atom (atom : Atom) : Derives .primary [.atom atom] (.atom atom)
  | parentheses {lexemes : List Lexeme} {formula : Formula}
      (inner : Derives .disjunction lexemes formula) :
      Derives .primary (.opening :: lexemes ++ [.closing]) formula
  | primary {lexemes : List Lexeme} {formula : Formula}
      (inner : Derives .primary lexemes formula) : Derives .negation lexemes formula
  | not {lexemes : List Lexeme} {formula : Formula}
      (inner : Derives .negation lexemes formula) :
      Derives .negation (.not :: lexemes) (.not formula)
  | negation {lexemes : List Lexeme} {formula : Formula}
      (inner : Derives .negation lexemes formula) : Derives .conjunction lexemes formula
  | and {first second : List Lexeme} {left right : Formula}
      (before : Derives .conjunction first left) (last : Derives .negation second right) :
      Derives .conjunction (first ++ .and :: second) (.and left right)
  | conjunction {lexemes : List Lexeme} {formula : Formula}
      (inner : Derives .conjunction lexemes formula) : Derives .disjunction lexemes formula
  | or {first second : List Lexeme} {left right : Formula}
      (before : Derives .disjunction first left) (last : Derives .conjunction second right) :
      Derives .disjunction (first ++ .or :: second) (.or left right)

/-- The operands of an open parenthesis that are read already, with the count of NOTs that wait for
their operand. -/
structure Operands where
  disjunction : Option Formula
  conjunction : Option Formula
  negations : Nat

namespace Operands

def empty : Operands := ⟨none, none, 0⟩

/-- A formula joined behind another one, if there is one. -/
def joined (join : Formula → Formula → Formula) (before : Option Formula) (last : Formula) :
    Formula :=
  before.elim last fun formula => join formula last

/-- The operands with one more of a conjunction, to which the waiting NOTs apply. -/
def take (operands : Operands) (formula : Formula) : Operands :=
  { operands with
    conjunction := some (joined .and operands.conjunction (formula.negate operands.negations))
    negations := 0 }

/-- The formula of all operands. -/
def formula? (operands : Operands) : Option Formula :=
  operands.conjunction.map (joined .or operands.disjunction)

/-- The formula of a row of lexemes. Each opening parenthesis puts the operands before it aside. -/
def read : Operands → List Operands → List Lexeme → Option Formula
  | operands, _, [] => operands.formula?
  | operands, outer, .atom atom :: rest => read (operands.take (.atom atom)) outer rest
  | operands, outer, .not :: rest =>
      read { operands with negations := operands.negations + 1 } outer rest
  | operands, outer, .and :: rest => read operands outer rest
  | operands, outer, .or :: rest => read ⟨operands.formula?, none, 0⟩ outer rest
  | operands, outer, .opening :: rest => read empty (operands :: outer) rest
  | operands, enclosing :: outer, .closing :: rest => do
      let formula ← operands.formula?
      read (enclosing.take formula) outer rest
  | _, [], .closing :: _ => none

/-- What reading does with the lexemes of a phrase. A loose phrase has to stand where no tighter
operand comes before it. -/
def Reads (lexemes : List Lexeme) (formula : Formula) : Phrase → Prop
  | .primary | .negation => ∀ operands outer rest,
      read operands outer (lexemes ++ rest) = read (operands.take formula) outer rest
  | .conjunction => ∀ operands outer rest, operands.conjunction = none → operands.negations = 0 →
      read operands outer (lexemes ++ rest) = read (operands.take formula) outer rest
  | .disjunction => ∀ outer rest, ∃ operands : Operands, operands.formula? = some formula ∧
      read empty outer (lexemes ++ rest) = read operands outer rest

theorem take_take {operands : Operands} (starts : operands.conjunction = none)
    (plain : operands.negations = 0) (left right : Formula) :
    (operands.take left).take right = operands.take (.and left right) := by
  simp [take, starts, plain, joined, Formula.negate]

theorem reads_of_derives {phrase : Phrase} {lexemes : List Lexeme} {formula : Formula}
    (derives : Derives phrase lexemes formula) : Reads lexemes formula phrase := by
  induction derives with
  | atom atom =>
      intro operands outer rest
      rfl
  | @parentheses lexemes formula inner inductionHypothesis =>
      intro operands outer rest
      obtain ⟨last, closes, reads⟩ :=
        inductionHypothesis (operands :: outer) (.closing :: rest)
      rw [List.append_assoc, List.cons_append, List.singleton_append, read, reads, read, closes]
      rfl
  | primary inner inductionHypothesis => exact inductionHypothesis
  | @not lexemes formula inner inductionHypothesis =>
      intro operands outer rest
      rw [List.cons_append, read, inductionHypothesis]
      rfl
  | negation inner inductionHypothesis =>
      intro operands outer rest _ _
      exact inductionHypothesis operands outer rest
  | @and first second left right before last first_ih second_ih =>
      intro operands outer rest starts plain
      rw [List.append_assoc, first_ih operands outer _ starts plain, List.cons_append, read,
        second_ih, take_take starts plain]
  | conjunction inner inductionHypothesis =>
      intro outer rest
      refine ⟨empty.take _, ?_, inductionHypothesis empty outer rest rfl rfl⟩
      rfl
  | @or first second left right before last first_ih second_ih =>
      intro outer rest
      obtain ⟨operands, closes, reads⟩ := first_ih outer (.or :: second ++ rest)
      refine ⟨(⟨some left, none, 0⟩ : Operands).take right, rfl, ?_⟩
      rw [List.append_assoc, reads, List.cons_append, read, closes]
      exact second_ih _ outer rest rfl rfl

end Operands

namespace Derives

/-- A row of lexemes has at most one formula. -/
theorem unique {lexemes : List Lexeme} {first second : Formula}
    (one : Derives .disjunction lexemes first) (other : Derives .disjunction lexemes second) :
    second = first := by
  obtain ⟨operands, closes, reads⟩ := Operands.reads_of_derives one [] []
  obtain ⟨operands', closes', reads'⟩ := Operands.reads_of_derives other [] []
  rw [reads] at reads'
  simp only [Operands.read, closes, closes'] at reads'
  exact (Option.some.inj reads').symm

end Derives

end BindPlan
