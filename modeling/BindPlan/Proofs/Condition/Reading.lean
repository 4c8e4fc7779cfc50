import BindPlan.Proofs.Condition.Text

namespace BindPlan

namespace Condition

/-- The lexemes derive a formula that is true, unknown or false just when the condition is. -/
def ReadsAs (phrase : Phrase) (lexemes : List Lexeme) (condition : Condition) : Prop :=
  ∃ formula, Derives phrase lexemes formula ∧
    ∀ assignment, formula.truth assignment = condition.truth assignment

section Phrases

variable {lexemes first second : List Lexeme} {condition left right : Condition}

theorem ReadsAs.atom {atom : Atom}
    (same : ∀ assignment, (Formula.atom atom).truth assignment = condition.truth assignment) :
    ReadsAs .conjunction [.atom atom] condition :=
  ⟨.atom atom, .negation (.primary (.atom atom)), same⟩

/-- A disjunction in parentheses is a primary, and so a conjunction of one operand. -/
theorem ReadsAs.parenthesized (reads : ReadsAs .disjunction lexemes condition) :
    ReadsAs .conjunction (parenthesized lexemes) condition := by
  obtain ⟨formula, derives, same⟩ := reads
  exact ⟨formula, .negation (.primary (.parentheses derives)), same⟩

/-- NOT applies to all that stands in the parentheses behind it. -/
theorem ReadsAs.not (reads : ReadsAs .disjunction lexemes condition) :
    ReadsAs .conjunction (.not :: Condition.parenthesized lexemes) (.not condition) := by
  obtain ⟨formula, derives, same⟩ := reads
  refine ⟨.not formula, .negation (.not (.primary (.parentheses derives))), ?_⟩
  intro assignment
  exact congrArg Truth.not (same assignment)

theorem ReadsAs.disjunction (reads : ReadsAs .conjunction lexemes condition) :
    ReadsAs .disjunction lexemes condition := by
  obtain ⟨formula, derives, same⟩ := reads
  exact ⟨formula, .conjunction derives, same⟩

/-- Conjunctions joined by AND are one conjunction. The operands of the second one move over to the
first one by the associativity of AND. -/
theorem conjunction_joined {left right : Formula} (before : Derives .conjunction first left)
    (last : Derives .conjunction second right) :
    ∃ formula, Derives .conjunction (first ++ .and :: second) formula ∧
      ∀ assignment, formula.truth assignment =
        (left.truth assignment).and (right.truth assignment) := by
  generalize phrase : Phrase.conjunction = kind at last
  induction last with
  | negation inner => exact ⟨_, .and before inner, fun _ => rfl⟩
  | @and second third middle right inner operand inductionHypothesis =>
      obtain ⟨formula, derives, same⟩ := inductionHypothesis phrase
      refine ⟨.and formula right, ?_, ?_⟩
      · have whole := Derives.and derives operand
        rwa [List.append_assoc, List.cons_append] at whole
      · intro assignment
        simp only [Formula.truth, same, Truth.and_assoc]
  | _ => cases phrase

theorem disjunction_joined {left right : Formula} (before : Derives .disjunction first left)
    (last : Derives .disjunction second right) :
    ∃ formula, Derives .disjunction (first ++ .or :: second) formula ∧
      ∀ assignment, formula.truth assignment =
        (left.truth assignment).or (right.truth assignment) := by
  generalize phrase : Phrase.disjunction = kind at last
  induction last with
  | conjunction inner => exact ⟨_, .or before inner, fun _ => rfl⟩
  | @or second third middle right inner operand inductionHypothesis =>
      obtain ⟨formula, derives, same⟩ := inductionHypothesis phrase
      refine ⟨.or formula right, ?_, ?_⟩
      · have whole := Derives.or derives operand
        rwa [List.append_assoc, List.cons_append] at whole
      · intro assignment
        simp only [Formula.truth, same, Truth.or_assoc]
  | _ => cases phrase

theorem ReadsAs.and (before : ReadsAs .conjunction first left)
    (last : ReadsAs .conjunction second right) :
    ReadsAs .conjunction (first ++ .and :: second) (.and left right) := by
  obtain ⟨_, before, sameLeft⟩ := before
  obtain ⟨_, last, sameRight⟩ := last
  obtain ⟨formula, derives, same⟩ := conjunction_joined before last
  refine ⟨formula, derives, fun assignment => ?_⟩
  rw [same, sameLeft, sameRight]
  rfl

theorem ReadsAs.or (before : ReadsAs .disjunction first left)
    (last : ReadsAs .disjunction second right) :
    ReadsAs .disjunction (first ++ .or :: second) (.or left right) := by
  obtain ⟨_, before, sameLeft⟩ := before
  obtain ⟨_, last, sameRight⟩ := last
  obtain ⟨formula, derives, same⟩ := disjunction_joined before last
  refine ⟨formula, derives, fun assignment => ?_⟩
  rw [same, sameLeft, sameRight]
  rfl

end Phrases

/-- The lexemes of a condition are a disjunction, and a conjunction unless the condition is an OR. -/
theorem lexemes_readAs (condition : Condition) :
    ReadsAs .disjunction condition.lexemes condition ∧
      (condition.isOr = false → ReadsAs .conjunction condition.lexemes condition) := by
  -- Only the operands of AND ask for a conjunction, and there an OR stands in parentheses.
  induction condition using Condition.lexemes.induct with
  | case1 found =>
      have reads : ReadsAs .conjunction (test found).lexemes (test found) := .atom fun _ => rfl
      exact ⟨reads.disjunction, fun _ => reads⟩
  | case2 operand values =>
      have reads : ReadsAs .conjunction [.atom (.notIn operand values)]
          (test (.isIn operand values)).not := .atom fun _ => rfl
      exact ⟨reads.disjunction, fun _ => reads⟩
  | case3 operand low high =>
      have reads : ReadsAs .conjunction [.atom (.notBetween operand low high)]
          (test (.between operand low high)).not := .atom fun _ => rfl
      exact ⟨reads.disjunction, fun _ => reads⟩
  | case4 inner inductionHypothesis =>
      have same : ReadsAs .disjunction inner.lexemes inner.nested := inductionHypothesis.1
      have reads : ReadsAs .conjunction inner.nested.not.lexemes inner.nested.not := same.not
      exact ⟨reads.disjunction, fun _ => reads⟩
  | case5 inner noList noRange notNested inductionHypothesis =>
      have reads : ReadsAs .conjunction inner.not.lexemes inner.not := by
        rw [lexemes_not noList noRange notNested]
        exact inductionHypothesis.1.not
      exact ⟨reads.disjunction, fun _ => reads⟩
  | case6 left right leftHypothesis rightHypothesis =>
      have operand {side : Condition} (hypothesis : ReadsAs .disjunction side.lexemes side ∧
          (side.isOr = false → ReadsAs .conjunction side.lexemes side)) :
          ReadsAs .conjunction
            (if side.isOr then parenthesized side.lexemes else side.lexemes) side := by
        split
        · exact hypothesis.1.parenthesized
        · rename_i closed
          exact hypothesis.2 (Bool.not_eq_true _ ▸ closed)
      have reads := (operand leftHypothesis).and (operand rightHypothesis)
      exact ⟨reads.disjunction, fun _ => reads⟩
  | case7 left right leftHypothesis rightHypothesis =>
      refine ⟨leftHypothesis.1.or rightHypothesis.1, ?_⟩
      intro closed
      cases closed
  | case8 inner inductionHypothesis =>
      have same : ReadsAs .disjunction inner.lexemes inner.nested := inductionHypothesis.1
      have reads : ReadsAs .conjunction inner.nested.lexemes inner.nested := same.parenthesized
      exact ⟨reads.disjunction, fun _ => reads⟩

theorem parenthesized_apart {lexemes : List Lexeme} (apart : lexemes.IsChain Lexeme.Apart) :
    (parenthesized lexemes).IsChain Lexeme.Apart := by
  have closed : (lexemes ++ [Lexeme.closing]).IsChain Lexeme.Apart :=
    Lexeme.apart_append (fun last => by cases last <;> trivial) apart (.singleton _)
  exact closed.cons fun next _ => (trivial : Lexeme.Apart .opening next)

theorem not_apart {lexemes : List Lexeme} (apart : lexemes.IsChain Lexeme.Apart) :
    (Lexeme.not :: lexemes).IsChain Lexeme.Apart :=
  apart.cons fun next _ => (trivial : Lexeme.Apart .not next)

theorem joined_apart {connective : Lexeme} {first second : List Lexeme}
    (keyword : connective = .and ∨ connective = .or) (before : first.IsChain Lexeme.Apart)
    (behind : second.IsChain Lexeme.Apart) :
    (first ++ connective :: second).IsChain Lexeme.Apart := by
  apply Lexeme.apart_append _ before (behind.cons _)
  · intro last
    rcases keyword with rfl | rfl <;> cases last <;> trivial
  · intro next _
    rcases keyword with rfl | rfl <;> trivial

/-- No two words of a written condition run into each other. -/
theorem lexemes_apart (condition : Condition) : condition.lexemes.IsChain Lexeme.Apart := by
  induction condition using Condition.lexemes.induct with
  | case1 found => exact .singleton _
  | case2 operand values => exact .singleton _
  | case3 operand low high => exact .singleton _
  | case4 inner inductionHypothesis =>
      exact not_apart (parenthesized_apart inductionHypothesis)
  | case5 inner noList noRange notNested inductionHypothesis =>
      rw [lexemes_not noList noRange notNested]
      exact not_apart (parenthesized_apart inductionHypothesis)
  | case6 left right leftHypothesis rightHypothesis =>
      rw [lexemes]
      apply joined_apart (.inl rfl)
      · split
        · exact parenthesized_apart leftHypothesis
        · exact leftHypothesis
      · split
        · exact parenthesized_apart rightHypothesis
        · exact rightHypothesis
  | case7 left right leftHypothesis rightHypothesis =>
      exact joined_apart (.inr rfl) leftHypothesis rightHypothesis
  | case8 inner inductionHypothesis => exact parenthesized_apart inductionHypothesis

/-- The positive tests among lexemes. -/
def testsOf (lexemes : List Lexeme) : List Test :=
  (lexemes.flatMap Lexeme.glyphs).filterMap Glyph.test?

theorem testsOf_append (first second : List Lexeme) :
    testsOf (first ++ second) = testsOf first ++ testsOf second := by
  simp [testsOf]

theorem testsOf_parenthesized (lexemes : List Lexeme) :
    testsOf (parenthesized lexemes) = testsOf lexemes := by
  simp [testsOf, parenthesized, Lexeme.glyphs, List.filterMap_cons, Glyph.test?]

/-- The tests among the glyphs of a condition are its tests in order. -/
theorem testsOf_lexemes (condition : Condition) : testsOf condition.lexemes = condition.tests := by
  induction condition using Condition.lexemes.induct with
  | case1 found => rfl
  | case2 operand values => rfl
  | case3 operand low high => rfl
  | case4 inner inductionHypothesis =>
      exact (testsOf_parenthesized inner.lexemes).trans inductionHypothesis
  | case5 inner noList noRange notNested inductionHypothesis =>
      rw [lexemes_not noList noRange notNested]
      exact (testsOf_parenthesized inner.lexemes).trans inductionHypothesis
  | case6 left right leftHypothesis rightHypothesis =>
      have operand (side : Condition) :
          testsOf (if side.isOr then parenthesized side.lexemes else side.lexemes) =
            testsOf side.lexemes := by
        split
        · exact testsOf_parenthesized side.lexemes
        · rfl
      rw [lexemes, testsOf_append, operand, leftHypothesis]
      change left.tests ++ testsOf (if right.isOr then _ else _) = _
      rw [operand, rightHypothesis]
      rfl
  | case7 left right leftHypothesis rightHypothesis =>
      rw [lexemes, testsOf_append, leftHypothesis]
      change left.tests ++ testsOf right.lexemes = _
      rw [rightHypothesis]
      rfl
  | case8 inner inductionHypothesis =>
      exact (testsOf_parenthesized inner.lexemes).trans inductionHypothesis

/-- The glyphs of a condition parse to a formula with the truth of the condition. -/
theorem parses_lexemes (condition : Condition) :
    ∃ formula, Glyph.Parses (condition.lexemes.flatMap Lexeme.glyphs) formula ∧
      ∀ assignment, formula.truth assignment = condition.truth assignment := by
  obtain ⟨formula, derives, same⟩ := (lexemes_readAs condition).1
  have read := Lexeme.lexemesFrom_glyphs (lexemes_apart condition)
  exact ⟨formula, ⟨condition.lexemes, read, derives⟩, same⟩

/-- A written condition parses to one formula, which has the truth of the condition under every
assignment of truth values to its tests. -/
theorem parses_written (writer : Writer) (condition : Condition) (fragment : Fragment)
    (written : writer.condition condition = .ok fragment) :
    ∃ text formula, writer.spell text = fragment.sql ∧
      text.filterMap Glyph.test? = condition.tests ∧
      Glyph.Parses text formula ∧ (∀ other, Glyph.Parses text other → other = formula) ∧
      ∀ assignment, formula.truth assignment = condition.truth assignment := by
  obtain ⟨formula, parses, same⟩ := parses_lexemes condition
  refine ⟨_, formula, writer.spell_glyphs written, testsOf_lexemes condition, parses, ?_, same⟩
  intro other parsesOther
  exact parses.unique parsesOther

/-- An OR below an AND stands in parentheses, and the negation of a list inside its test. -/
theorem parses_written_mixed :
    let tested (name : String) : Test := .isNull (.column { name })
    let listed : Test := .isIn (.column { name := "c" }) [.int 1, .int 2]
    let condition : Condition :=
      .and (.or (.test (tested "a")) (.test (tested "b"))) (.not (.test listed))
    let writer : Writer := ⟨.postgres, {}⟩
    let fragment : Fragment := [.text "(", .text "a", .text " IS NULL", .text " OR ", .text "b",
      .text " IS NULL", .text ")", .text " AND ", .text "c", .text " NOT IN (", .text "1",
      .text ", ", .text "2", .text ")"]
    writer.condition condition = .ok fragment ∧
      ∃ text formula, writer.spell text = fragment.sql ∧
        text.filterMap Glyph.test? = [tested "a", tested "b", listed] ∧
        Glyph.Parses text formula ∧ (∀ other, Glyph.Parses text other → other = formula) ∧
        ∀ assignment, formula.truth assignment =
          ((assignment (tested "a")).or (assignment (tested "b"))).and (assignment listed).not := by
  intro tested listed condition writer fragment
  have written : writer.condition condition = .ok fragment := rfl
  exact ⟨written, parses_written writer condition fragment written⟩

end Condition

end BindPlan
