import BindPlan.Proofs.Criteria.Emptiness
import BindPlan.Proofs.Criteria.Replay

namespace BindPlan

/-- The dialect can write the test. -/
def Dialect.Supports (dialect : Dialect) : Test → Prop
  | .contains _ _ => dialect.comparesArrays = true
  | _ => True

namespace Writer

variable {writer : Writer}

theorem test_supported {test : Test} (supported : writer.dialect.Supports test) :
    ∃ fragment, writer.test test = .ok fragment := by
  cases test with
  | contains left right =>
      have compares : writer.dialect.comparesArrays = true := supported
      rw [test, if_pos compares]
      exact ⟨_, rfl⟩
  | _ => exact ⟨_, rfl⟩

theorem atom_supported {atom : Atom} (supported : writer.dialect.Supports atom.test) :
    ∃ fragment, writer.atom atom = .ok fragment := by
  cases atom with
  | plain test => exact test_supported supported
  | _ => exact ⟨_, rfl⟩

theorem lexemes_supported {lexemes : List Lexeme}
    (supported : ∀ test ∈ Condition.testsOf lexemes, writer.dialect.Supports test) :
    ∃ fragment, writer.lexemes lexemes = .ok fragment := by
  induction lexemes with
  | nil => exact ⟨[], rfl⟩
  | cons lexeme rest inductionHypothesis =>
      have parts : Condition.testsOf (lexeme :: rest) =
          Condition.testsOf [lexeme] ++ Condition.testsOf rest := Condition.testsOf_append [lexeme] rest
      rw [parts] at supported
      obtain ⟨first, head⟩ : ∃ fragment, writer.lexeme lexeme = .ok fragment := by
        cases lexeme with
        | atom found =>
            exact atom_supported (supported found.test (List.mem_append_left _ List.mem_cons_self))
        | _ => exact ⟨_, rfl⟩
      obtain ⟨others, tail⟩ := inductionHypothesis fun test member =>
        supported test (List.mem_append_right _ member)
      rw [lexemes, head, tail]
      exact ⟨first ++ others, rfl⟩

/-- A condition is written where the dialect can write each of its tests. -/
theorem condition_supported {condition : Condition}
    (supported : ∀ test ∈ condition.tests, writer.dialect.Supports test) :
    ∃ fragment, writer.condition condition = .ok fragment := by
  rw [← condition.testsOf_lexemes] at supported
  exact lexemes_supported supported

end Writer

namespace Mapper

open Allocating

variable {mapper : Mapper} {start finish : Allocator}

theorem Tests.supported {predicate : Predicate} {test : Test} (tests : mapper.Tests predicate test)
    (accepted : predicate.test.isContainment = true → mapper.dialect.comparesArrays = true) :
    mapper.dialect.Supports test := by
  obtain ⟨property, asked, ignoreCase⟩ := predicate
  cases asked with
  | compare comparison value =>
      obtain ⟨marker, same⟩ := tests
      rw [same]
      split <;> trivial
  | contains value =>
      obtain ⟨marker, rfl⟩ := tests
      exact accepted rfl
  | isIn negated values =>
      obtain ⟨markers, _, rfl⟩ := tests
      trivial
  | between negated low high =>
      obtain ⟨low, high, rfl⟩ := tests
      trivial
  | _ =>
      cases tests
      trivial

/-- The dialect can write the condition of a predicate if it can write its test. -/
theorem supported_condition {dialect : Dialect} {test : Test} (supported : dialect.Supports test)
    (predicate : Predicate) : ∀ found ∈ (predicate.condition test).tests, dialect.Supports found := by
  have single : ∀ found ∈ [test], dialect.Supports found := by simpa using supported
  obtain ⟨property, asked, ignoreCase⟩ := predicate
  cases asked with
  | isIn negated values =>
      cases values with
      | nil =>
          -- A list without values makes an equation of two numbers instead of its test.
          intro found member
          cases negated <;> obtain rfl := List.mem_singleton.mp member <;> trivial
      | cons value values => cases negated <;> exact single
  | between negated low high => cases negated <;> exact single
  | _ => exact single

theorem mapPredicate_supported {predicate : Predicate} {mapped : Mapped}
    (succeeds : Succeeds (mapper.mapPredicate predicate) start mapped finish) :
    ∀ test ∈ mapped.condition.tests, mapper.dialect.Supports test := by
  obtain ⟨test, maps⟩ := (mapPredicate_succeeds succeeds).1
  have accepted : predicate.test.isContainment = true → mapper.dialect.comparesArrays = true := by
    intro containment
    by_contra lacks
    have reported : mapper.refusal? predicate = some (.unsupportedContainment mapper.dialect) := by
      rw [refusal?, containment, if_pos (by simpa using lacks)]
    have fails := (refuses_mapPredicate predicate start _).mpr reported
    rw [succeeds] at fails
    cases fails
  rw [maps.condition]
  exact supported_condition (maps.tests.supported accepted) predicate

/-- Whatever criteria are mapped to can be written in the dialect they are mapped for. -/
theorem map_supported {criteria : Criteria} {mapped : Mapped}
    (succeeds : Succeeds (mapper.map criteria) start mapped finish) :
    ∀ test ∈ mapped.condition.tests, mapper.dialect.Supports test := by
  obtain ⟨parts, runs, replayed⟩ := map_succeeds succeeds
  have long := (mapM_hands mapPredicate_succeeds runs).1.length_eq.symm
  have tests : mapped.condition.tests = parts.flatMap fun part => part.condition.tests :=
    rows_replay tests_respects long replayed
  rw [tests]
  intro test member
  obtain ⟨part, among, inside⟩ := List.mem_flatMap.mp member
  obtain ⟨predicate, _, _, _, maps⟩ := exists_of_succeeds_mapM runs part among
  exact mapPredicate_supported maps test inside

end Mapper

end BindPlan
