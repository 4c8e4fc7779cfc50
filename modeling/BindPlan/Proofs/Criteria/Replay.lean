import BindPlan.Proofs.Condition.Reading
import BindPlan.Proofs.Criteria.Operands
import Mathlib.Data.List.Forall2

namespace BindPlan

/-- The truth of a test. What an equation of two numbers says does not depend on a row. -/
def Test.truth (assignment : Test → Truth) : Test → Truth
  | .compare .eq (.int left) (.int right) => Truth.ofBool (left == right)
  | test => assignment test

/-- The truth of a predicate whose positive test has the given truth. Nothing is in a list without
values. -/
def Predicate.truth (predicate : Predicate) (positive : Truth) : Truth :=
  match predicate.test with
  | .isIn negated [] => if negated then .true else .false
  | .isIn negated _ | .between negated _ _ => positive.negateIf negated
  | _ => positive

/-- The truth of criteria whose predicates have the given truths in order. -/
def Criteria.truth? (criteria : Criteria) (truths : List Truth) : Option Truth :=
  criteria.replay Connective.truth id truths

namespace Mapper

variable {mapper : Mapper}

/-- The test of a predicate reads its column, so it is no equation of numbers. -/
theorem Tests.truth_eq {predicate : Predicate} {test : Test} (tests : mapper.Tests predicate test)
    (assignment : Test → Truth) : test.truth assignment = assignment test := by
  obtain ⟨property, asked, ignoreCase⟩ := predicate
  cases asked with
  | compare comparison value =>
      obtain ⟨marker, same⟩ := tests
      rw [same]
      split <;> cases comparison <;> rfl
  | contains value =>
      obtain ⟨marker, rfl⟩ := tests
      rfl
  | isIn negated values =>
      obtain ⟨markers, _, rfl⟩ := tests
      rfl
  | between negated low high =>
      obtain ⟨low, high, rfl⟩ := tests
      rfl
  | _ =>
      cases tests
      rfl

theorem Maps.truth_eq {predicate : Predicate} {test : Test} {mapped : Mapped}
    (maps : mapper.Maps predicate test mapped) (assignment : Test → Truth) :
    mapped.condition.truth (Test.truth assignment) = predicate.truth (assignment test) := by
  rw [maps.condition, ← maps.tests.truth_eq assignment]
  obtain ⟨property, asked, ignoreCase⟩ := predicate
  cases asked with
  | isIn negated values =>
      cases values with
      | nil => cases negated <;> rfl
      | cons value values => exact Condition.truth_negateIf _ negated (.test test)
  | between negated low high => exact Condition.truth_negateIf _ negated (.test test)
  | _ => rfl

theorem Maps.condition_markers {predicate : Predicate} {test : Test} {mapped : Mapped}
    (maps : mapper.Maps predicate test mapped) :
    mapped.condition.markers = mapped.bindings.markers := by
  have tests := maps.tests
  rw [maps.condition, ← maps.markers]
  obtain ⟨property, asked, ignoreCase⟩ := predicate
  cases asked with
  | isIn negated values =>
      cases values with
      | nil =>
          obtain ⟨markers, long, rfl⟩ := tests
          rw [List.eq_nil_of_length_eq_zero long]
          cases negated <;> rfl
      | cons value values => cases negated <;> rfl
  | between negated low high => cases negated <;> rfl
  | _ => rfl

theorem markers_parts {predicates : List Predicate} {parts : List Mapped}
    (maps : List.Forall₂ (fun predicate part => ∃ test, mapper.Maps predicate test part)
      predicates parts) :
    (parts.flatMap fun part => part.condition.markers) =
      parts.flatMap fun part => part.bindings.markers := by
  induction maps with
  | nil => rfl
  | cons head rest inductionHypothesis =>
      obtain ⟨test, head⟩ := head
      rw [List.flatMap_cons, List.flatMap_cons, head.condition_markers, inductionHypothesis]

/-- Mapped predicates have a test each. The tests hold the markers of the bindings in order. -/
theorem exists_tests {predicates : List Predicate} {parts : List Mapped}
    (maps : List.Forall₂ (fun predicate part => ∃ test, mapper.Maps predicate test part)
      predicates parts) :
    ∃ tests, List.Forall₂ mapper.Tests predicates tests ∧
      tests.flatMap Test.markers = parts.flatMap (fun part => part.bindings.markers) ∧
      parts.map Mapped.condition = List.zipWith Predicate.condition predicates tests ∧
      ∀ assignment, parts.map (fun part => part.condition.truth (Test.truth assignment)) =
        List.zipWith Predicate.truth predicates (tests.map assignment) := by
  induction maps with
  | nil => exact ⟨[], .nil, rfl, rfl, fun _ => rfl⟩
  | @cons predicate part predicates parts head rest inductionHypothesis =>
      obtain ⟨test, head⟩ := head
      obtain ⟨tests, tail, markers, conditions, truths⟩ := inductionHypothesis
      refine ⟨test :: tests, .cons head.tests tail, ?_, ?_, fun assignment => ?_⟩
      · rw [List.flatMap_cons, List.flatMap_cons, head.markers, markers]
      · rw [List.map_cons, List.zipWith_cons_cons, conditions, head.condition]
      · rw [List.map_cons, List.map_cons, List.zipWith_cons_cons, truths, head.truth_eq]

/-- Criteria that are mapped are a replay of their mapped predicates. -/
theorem map_succeeds {criteria : Criteria} {start finish : Allocator} {mapped : Mapped}
    (succeeds : Allocating.Succeeds (mapper.map criteria) start mapped finish) :
    ∃ parts, Allocating.Succeeds (criteria.leaves.mapM mapper.mapPredicate) start parts finish ∧
      criteria.replay Mapped.join Mapped.nested parts = some mapped := by
  rw [map, mapChain_eq] at succeeds
  obtain ⟨built, between, chain, succeeds⟩ := Allocating.succeeds_bind.mp succeeds
  obtain ⟨parts, last, runs, done⟩ := Allocating.succeeds_bind.mp chain
  obtain ⟨replayed, rfl⟩ := Allocating.succeeds_pure.mp done
  cases built with
  | none => exact (Allocating.not_succeeds_throw succeeds).elim
  | some found =>
      obtain ⟨rfl, rfl⟩ := Allocating.succeeds_pure.mp succeeds
      exact ⟨parts, runs, replayed⟩

/-- Rows of mapped criteria that every joining puts behind one another are the rows of their
predicates in order. -/
theorem rows_replay {A : Type} {rows : Mapped → List A}
    (respects : Criteria.Respects rows Mapped.join Mapped.nested Connective.concat id)
    {criteria : Criteria} {parts : List Mapped} {mapped : Mapped}
    (long : parts.length = criteria.leaves.length)
    (replayed : criteria.replay Mapped.join Mapped.nested parts = some mapped) :
    rows mapped = parts.flatMap rows := by
  have viewed := Criteria.replay_map respects criteria parts
  have whole := criteria.replay_concat (parts.map rows) (by rwa [List.length_map])
  rw [replayed] at viewed
  rw [← viewed] at whole
  exact whole

theorem bindings_respects :
    Criteria.Respects Mapped.bindings Mapped.join Mapped.nested Connective.concat id :=
  ⟨fun _ _ _ => rfl, fun _ => rfl⟩

theorem markers_respects : Criteria.Respects (fun mapped : Mapped => mapped.condition.markers)
    Mapped.join Mapped.nested Connective.concat id := by
  refine ⟨fun connective _ _ => ?_, fun _ => rfl⟩
  cases connective <;> rfl

theorem tests_respects : Criteria.Respects (fun mapped : Mapped => mapped.condition.tests)
    Mapped.join Mapped.nested Connective.concat id := by
  refine ⟨fun connective _ _ => ?_, fun _ => rfl⟩
  cases connective <;> rfl

theorem markers_replay {criteria : Criteria} {parts : List Mapped} {mapped : Mapped}
    (long : parts.length = criteria.leaves.length)
    (replayed : criteria.replay Mapped.join Mapped.nested parts = some mapped) :
    mapped.bindings.markers = parts.flatMap fun part => part.bindings.markers := by
  rw [rows_replay bindings_respects long replayed, Bindings.markers, List.map_flatMap]
  rfl

/-- The truth of mapped criteria is the replay of the truths of their predicates. -/
theorem truth_replay {criteria : Criteria} {parts : List Mapped} {mapped : Mapped}
    (replayed : criteria.replay Mapped.join Mapped.nested parts = some mapped)
    (assignment : Test → Truth) :
    criteria.truth? (parts.map fun part => part.condition.truth assignment) =
      some (mapped.condition.truth assignment) := by
  have respects : Criteria.Respects (fun part : Mapped => part.condition.truth assignment)
      Mapped.join Mapped.nested Connective.truth id :=
    ⟨fun connective first second =>
      Condition.truth_join assignment connective first.condition second.condition, fun _ => rfl⟩
  have truths := Criteria.replay_map respects criteria parts
  rw [replayed] at truths
  exact truths.symm

/-- The markers of mapped criteria are handed out and bound in textual order, one for each operand. -/
theorem map_binds {criteria : Criteria} {start finish : Allocator} {mapped : Mapped}
    (maps : Allocating.Succeeds (mapper.map criteria) start mapped finish) :
    mapped.condition.markers = mapped.bindings.markers ∧
      start.Hands mapped.bindings.markers finish ∧
      List.Forall₂ Operand.Binds (criteria.leaves.flatMap mapper.operands) mapped.bindings := by
  obtain ⟨parts, runs, replayed⟩ := map_succeeds maps
  obtain ⟨each, hands⟩ := Allocating.mapM_hands mapPredicate_succeeds runs
  have long := each.length_eq.symm
  refine ⟨?_, ?_, ?_⟩
  · rw [markers_replay long replayed, ← markers_parts each]
    exact rows_replay markers_respects long replayed
  · rwa [markers_replay long replayed]
  · rw [rows_replay bindings_respects long replayed]
    exact List.rel_flatMap each fun predicate part ⟨test, maps⟩ => maps.binds

/-- Mapped criteria are written as a text that parses to one formula. Under every assignment of
truth values to the positive tests of the predicates, the formula has the truth of the chain replayed
from its oldest clause. The tests stand in the text in the order of their predicates, and hold the
markers of the bindings. -/
theorem replays_written (mapper : Mapper) (writer : Writer) (criteria : Criteria)
    (start finish : Allocator) (mapped : Mapped) (fragment : Fragment)
    (maps : Allocating.Succeeds (mapper.map criteria) start mapped finish)
    (written : writer.condition mapped.condition = .ok fragment) :
    ∃ tests text formula, List.Forall₂ mapper.Tests criteria.leaves tests ∧
      tests.flatMap Test.markers = mapped.bindings.markers ∧
      writer.spell text = fragment.sql ∧
      text.filterMap Glyph.test? =
        (List.zipWith Predicate.condition criteria.leaves tests).flatMap Condition.tests ∧
      Glyph.Parses text formula ∧ (∀ other, Glyph.Parses text other → other = formula) ∧
      ∀ assignment, criteria.truth? (List.zipWith Predicate.truth criteria.leaves
        (tests.map assignment)) = some (formula.truth (Test.truth assignment)) := by
  obtain ⟨parts, runs, replayed⟩ := map_succeeds maps
  have each := (Allocating.mapM_hands mapPredicate_succeeds runs).1
  have long := each.length_eq.symm
  obtain ⟨tests, asked, markers, conditions, truths⟩ := exists_tests each
  obtain ⟨formula, parses, same⟩ := Condition.parses_lexemes mapped.condition
  refine ⟨tests, _, formula, asked, ?_, writer.spell_glyphs written, ?_, parses,
    fun other => parses.unique, fun assignment => ?_⟩
  · rw [markers, markers_replay long replayed]
  · rw [← conditions, List.flatMap_map]
    have inText := rows_replay tests_respects long replayed
    exact (Condition.testsOf_lexemes mapped.condition).trans inText
  · rw [← truths, truth_replay replayed, same]

/-- A blank member of a group is passed over, and a list without values excludes nothing. -/
theorem replays_written_grouped :
    let criteria : Criteria := .extend (.extend (.property "a" .isNull) .or
      (.predicate { property := "b", test := .compare .eq (.int 2) })) .and
      (.group [.empty, .property "c" (.isIn true [])])
    let mapper : Mapper := ⟨.postgres, .standard, .empty, { name := "t" }⟩
    let writer : Writer := ⟨.postgres, {}⟩
    let column (name : String) : Expression := .column ⟨some "t", name⟩
    let marker : Marker := ⟨"$1", .index 0, 0⟩
    let mapped : Mapped :=
      ⟨.and (.or (.test (.isNull (column "a"))) (.compare .eq (column "b") (.marker marker)))
        (.nested .alwaysTrue), [⟨marker, .value (.int 2)⟩]⟩
    let fragment : Fragment := [.text "(", .text "a", .text " IS NULL", .text " OR ", .text "b",
      .text " = ", .slot marker, .text ")", .text " AND ", .text "(", .text "1", .text " = ",
      .text "1", .text ")"]
    Allocating.Succeeds (mapper.map criteria) (MarkerStyle.indexed "$" 1).allocator mapped
        ⟨.indexed "$" 1, 1, []⟩ ∧
      writer.condition mapped.condition = .ok fragment ∧
      ∃ tests text formula, List.Forall₂ mapper.Tests criteria.leaves tests ∧
        tests.flatMap Test.markers = [marker] ∧
        writer.spell text = fragment.sql ∧
        text.filterMap Glyph.test? =
          (List.zipWith Predicate.condition criteria.leaves tests).flatMap Condition.tests ∧
        Glyph.Parses text formula ∧ (∀ other, Glyph.Parses text other → other = formula) ∧
        ∀ assignment, criteria.truth? (List.zipWith Predicate.truth criteria.leaves
          (tests.map assignment)) = some (formula.truth (Test.truth assignment)) := by
  intro criteria mapper writer column marker mapped fragment
  have maps : Allocating.Succeeds (mapper.map criteria) (MarkerStyle.indexed "$" 1).allocator
      mapped ⟨.indexed "$" 1, 1, []⟩ := by decide +kernel
  have written : writer.condition mapped.condition = .ok fragment := rfl
  exact ⟨maps, written, replays_written mapper writer criteria _ _ mapped fragment maps written⟩

end Mapper

end BindPlan
