import BindPlan.Proofs.Criteria.Refusal

namespace BindPlan

mutual

theorem Clause.isEmpty_iff : ∀ clause : Clause, clause.isEmpty = true ↔ clause.leaves = []
  | .blank => by simp [Clause.isEmpty, Clause.leaves]
  | .predicate _ => by simp [Clause.isEmpty, Clause.leaves]
  | .group members => Criteria.allEmpty_iff members

/-- Criteria are empty when they hold no predicate at any depth. -/
theorem Criteria.isEmpty_iff : ∀ criteria : Criteria,
    criteria.isEmpty = true ↔ criteria.leaves = []
  | .start clause => Clause.isEmpty_iff clause
  | .extend previous _ clause => by
      rw [Criteria.isEmpty, Criteria.leaves, Bool.and_eq_true, List.append_eq_nil_iff,
        Criteria.isEmpty_iff previous, Clause.isEmpty_iff clause]

theorem Criteria.allEmpty_iff : ∀ members : List Criteria,
    Criteria.allEmpty members = true ↔ Criteria.allLeaves members = []
  | [] => by simp [Criteria.allEmpty, Criteria.allLeaves]
  | member :: rest => by
      rw [Criteria.allEmpty, Criteria.allLeaves, Bool.and_eq_true, List.append_eq_nil_iff,
        Criteria.isEmpty_iff member, Criteria.allEmpty_iff rest]

end

section Replay

variable {A : Type} {join : Connective → A → A → A} {nest : A → A}

theorem Connective.isSome_join? (connective : Connective) (first second : Option A) :
    (connective.join? join first second).isSome = (first.isSome || second.isSome) := by
  cases first <;> cases second <;> rfl

mutual

theorem Clause.isSome_replay : ∀ (clause : Clause) (values : List A),
    values.length = clause.leaves.length →
      (clause.replay join nest values).isSome = !clause.isEmpty
  | .blank, _, _ => rfl
  | .predicate _, values, long => by
      obtain ⟨value, rfl⟩ := List.length_eq_one_iff.mp long
      rfl
  | .group members, values, long => by
      rw [Clause.replay, Option.isSome_map, Criteria.isSome_replayAll none members values long]
      rfl

/-- A replay has a value unless the criteria are empty. -/
theorem Criteria.isSome_replay : ∀ (criteria : Criteria) (values : List A),
    values.length = criteria.leaves.length →
      (criteria.replay join nest values).isSome = !criteria.isEmpty
  | .start clause, values, long => Clause.isSome_replay clause values long
  | .extend previous connective clause, values, long => by
      rw [Criteria.leaves, List.length_append] at long
      rw [Criteria.replay, Connective.isSome_join?,
        Criteria.isSome_replay previous _ (by rw [List.length_take]; omega),
        Clause.isSome_replay clause _ (by rw [List.length_drop]; omega), Criteria.isEmpty,
        Bool.not_and]

theorem Criteria.isSome_replayAll :
    ∀ (built : Option A) (members : List Criteria) (values : List A),
      values.length = (Criteria.allLeaves members).length →
        (Criteria.replayAll join nest built members values).isSome =
          (built.isSome || !Criteria.allEmpty members)
  | built, [], _, _ => (Bool.or_false _).symm
  | built, member :: rest, values, long => by
      rw [Criteria.allLeaves, List.length_append] at long
      rw [Criteria.replayAll,
        Criteria.isSome_replayAll _ rest _ (by rw [List.length_drop]; omega),
        Connective.isSome_join?,
        Criteria.isSome_replay member _ (by rw [List.length_take]; omega), Criteria.allEmpty,
        Bool.not_and, Bool.or_assoc]

end

end Replay

namespace Mapper

open Allocating

variable {mapper : Mapper} {start finish : Allocator} {error : Error}

/-- Criteria are refused for the first of their predicates that is, or because they have none. -/
theorem refuses_criteria (criteria : Criteria) :
    Refuses (mapper.map criteria) ((criteria.leaves.findSome? mapper.refusal?).or
      (if criteria.isEmpty then some .emptyCriteria else none)) := by
  rw [map, mapChain_eq, bind_assoc]
  apply refuses_bind (refuses_mapM refuses_mapPredicate criteria.leaves)
  intro start parts finish maps
  have long := (mapM_hands mapPredicate_succeeds maps).1.length_eq.symm
  have found : (criteria.replay Mapped.join Mapped.nested parts).isSome = !criteria.isEmpty :=
    criteria.isSome_replay parts long
  rw [pure_bind]
  cases replayed : criteria.replay Mapped.join Mapped.nested parts with
  | none =>
      have empty : criteria.isEmpty = true := by simpa [replayed] using found
      rw [empty]
      exact refuses_throw _
  | some mapped =>
      have nonempty : criteria.isEmpty = false := by simpa [replayed] using found
      rw [nonempty]
      exact refuses_pure mapped

/-- Criteria are refused for want of a predicate, or for the first of their predicates that the dialect
or the converter refuses. -/
theorem map_error_iff (mapper : Mapper) (criteria : Criteria) (start : Allocator) (error : Error) :
    ((mapper.map criteria).run.run start).1 = .error error ↔
      criteria.leaves = [] ∧ error = .emptyCriteria ∨
        criteria.leaves.findSome? mapper.refusal? = some error := by
  rw [refuses_criteria criteria start error, Option.or_eq_some_iff, or_comm]
  apply or_congr_left
  cases empty : criteria.isEmpty with
  | true =>
      have none := criteria.isEmpty_iff.mp empty
      simp [none, eq_comm]
  | false =>
      have some : criteria.leaves ≠ [] := by
        rw [Ne, ← criteria.isEmpty_iff, empty]
        exact Bool.false_ne_true
      simp [some]

theorem map_error_cases {criteria : Criteria}
    (refused : ((mapper.map criteria).run.run start).1 = .error error) :
    criteria.leaves = [] ∧ error = .emptyCriteria ∨
      error = .unsupportedContainment mapper.dialect ∨ mapper.converter.Reports error := by
  rcases (mapper.map_error_iff criteria start error).mp refused with empty | reported
  · exact .inl empty
  · obtain ⟨predicate, _, refused⟩ := List.exists_of_findSome?_eq_some reported
    exact .inr (refusal?_cases refused)

/-- Mapping never counts the operands of a predicate wrong. Only a converter can say that. -/
theorem reports_of_map_bindingArity {criteria : Criteria} {name : String} {expected actual : Nat}
    (refused : ((mapper.map criteria).run.run start).1 =
      .error (.bindingArity name expected actual)) :
    mapper.converter.Reports (.bindingArity name expected actual) := by
  rcases map_error_cases refused with ⟨_, same⟩ | same | reports
  · cases same
  · cases same
  · exact reports

end Mapper

end BindPlan
