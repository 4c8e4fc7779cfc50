import BindPlan.Proofs.Marker.Handout
import BindPlan.Proofs.Outcome

/-!
Criteria taken apart into their predicates. Mapping criteria is mapping their predicates in order,
and then replaying the chain on what came of them, which hands out no more markers.
-/

namespace BindPlan

mutual

/-- The predicates of a clause, the oldest of a chain first. -/
def Clause.leaves : Clause → List Predicate
  | .blank => []
  | .predicate tested => [tested]
  | .group members => Criteria.allLeaves members

def Criteria.leaves : Criteria → List Predicate
  | .start clause => clause.leaves
  | .extend previous _ clause => previous.leaves ++ clause.leaves

def Criteria.allLeaves : List Criteria → List Predicate
  | [] => []
  | member :: rest => member.leaves ++ Criteria.allLeaves rest

end

section Replay

variable {A B : Type}

/-- What is built so far joined with what comes next. Either may be absent. -/
def Connective.join? (join : Connective → A → A → A) (connective : Connective) :
    Option A → Option A → Option A
  | none, next => next
  | built, none => built
  | some built, some next => some (join connective built next)

mutual

/-- The value of a clause whose predicates have the given values in order. A clause without a
predicate has none, and a group joins the values of its members by AND. -/
def Clause.replay (join : Connective → A → A → A) (nest : A → A) : Clause → List A → Option A
  | .blank, _ => none
  | .predicate _, values => values.head?
  | .group members, values => (Criteria.replayAll join nest none members values).map nest

/-- The value of a chain, read from its oldest clause. Each further clause that has a value joins the
value built so far by its own connective. -/
def Criteria.replay (join : Connective → A → A → A) (nest : A → A) :
    Criteria → List A → Option A
  | .start clause, values => clause.replay join nest values
  | .extend previous connective clause, values =>
      connective.join? join (previous.replay join nest (values.take previous.leaves.length))
        (clause.replay join nest (values.drop previous.leaves.length))

def Criteria.replayAll (join : Connective → A → A → A) (nest : A → A) (built : Option A) :
    List Criteria → List A → Option A
  | [], _ => built
  | member :: rest, values =>
      Criteria.replayAll join nest
        (Connective.and.join? join built
          (member.replay join nest (values.take member.leaves.length)))
        rest (values.drop member.leaves.length)

end

section Homomorphism

/-- A view of values that respects how a replay joins and nests them. -/
structure Criteria.Respects (view : A → B) (join : Connective → A → A → A) (nest : A → A)
    (join' : Connective → B → B → B) (nest' : B → B) : Prop where
  joins : ∀ connective first second,
    view (join connective first second) = join' connective (view first) (view second)
  nests : ∀ value, view (nest value) = nest' (view value)

variable {join : Connective → A → A → A} {nest : A → A} {join' : Connective → B → B → B}
  {nest' : B → B} {view : A → B}

theorem Connective.join?_map (respects : Criteria.Respects view join nest join' nest')
    (connective : Connective) (first second : Option A) :
    (connective.join? join first second).map view =
      connective.join? join' (first.map view) (second.map view) := by
  cases first with
  | none => rfl
  | some built =>
      cases second with
      | none => rfl
      | some next => exact congrArg some (respects.joins connective built next)

mutual

theorem Clause.replay_map (respects : Criteria.Respects view join nest join' nest') :
    ∀ (clause : Clause) (values : List A),
      (clause.replay join nest values).map view = clause.replay join' nest' (values.map view)
  | .blank, _ => rfl
  | .predicate _, _ => List.head?_map.symm
  | .group members, values => by
      have all := Criteria.replayAll_map respects none members values
      rw [Clause.replay, Clause.replay, Option.map_map, ← Option.map_none view, ← all,
        Option.map_map]
      congr 1
      funext value
      exact respects.nests value

/-- A view of values that respects the joining of values respects replay. -/
theorem Criteria.replay_map (respects : Criteria.Respects view join nest join' nest') :
    ∀ (criteria : Criteria) (values : List A),
      (criteria.replay join nest values).map view = criteria.replay join' nest' (values.map view)
  | .start clause, values => Clause.replay_map respects clause values
  | .extend previous connective clause, values => by
      rw [Criteria.replay, Criteria.replay, Connective.join?_map respects,
        Criteria.replay_map respects previous, Clause.replay_map respects clause, List.map_take,
        List.map_drop]

theorem Criteria.replayAll_map (respects : Criteria.Respects view join nest join' nest') :
    ∀ (built : Option A) (members : List Criteria) (values : List A),
      (Criteria.replayAll join nest built members values).map view =
        Criteria.replayAll join' nest' (built.map view) members (values.map view)
  | _, [], _ => rfl
  | built, member :: rest, values => by
      rw [Criteria.replayAll, Criteria.replayAll, Criteria.replayAll_map respects _ rest,
        Connective.join?_map respects, Criteria.replay_map respects member, List.map_take,
        List.map_drop]

end

end Homomorphism

section Concatenation

/-- The rows of two clauses in a row. -/
def Connective.concat (_ : Connective) (first second : List A) : List A := first ++ second

theorem Connective.getD_concat (connective : Connective) (first second : Option (List A)) :
    (connective.join? Connective.concat first second).getD [] = first.getD [] ++ second.getD [] := by
  cases first with
  | none => rfl
  | some built =>
      cases second with
      | none => exact (List.append_nil built).symm
      | some next => rfl

mutual

theorem Clause.replay_concat : ∀ (clause : Clause) (rows : List (List A)),
    rows.length = clause.leaves.length →
      (clause.replay Connective.concat id rows).getD [] = rows.flatten
  | .blank, rows, long => by
      rw [List.eq_nil_of_length_eq_zero long]
      rfl
  | .predicate _, rows, long => by
      obtain ⟨row, rfl⟩ := List.length_eq_one_iff.mp long
      exact (List.append_nil row).symm
  | .group members, rows, long => by
      rw [Clause.replay, Option.map_id, id, Criteria.replayAll_concat none members rows long]
      rfl

/-- The replay that puts rows behind one another keeps all rows in their order. -/
theorem Criteria.replay_concat : ∀ (criteria : Criteria) (rows : List (List A)),
    rows.length = criteria.leaves.length →
      (criteria.replay Connective.concat id rows).getD [] = rows.flatten
  | .start clause, rows, long => Clause.replay_concat clause rows long
  | .extend previous connective clause, rows, long => by
      rw [Criteria.leaves, List.length_append] at long
      rw [Criteria.replay, Connective.getD_concat,
        Criteria.replay_concat previous _ (by rw [List.length_take]; omega),
        Clause.replay_concat clause _ (by rw [List.length_drop]; omega), ← List.flatten_append,
        List.take_append_drop]

theorem Criteria.replayAll_concat :
    ∀ (built : Option (List A)) (members : List Criteria) (rows : List (List A)),
      rows.length = (Criteria.allLeaves members).length →
        (Criteria.replayAll Connective.concat id built members rows).getD [] =
          built.getD [] ++ rows.flatten
  | built, [], rows, long => by
      rw [List.eq_nil_of_length_eq_zero long]
      exact (List.append_nil _).symm
  | built, member :: rest, rows, long => by
      rw [Criteria.allLeaves, List.length_append] at long
      rw [Criteria.replayAll, Criteria.replayAll_concat _ rest _ (by rw [List.length_drop]; omega),
        Connective.getD_concat,
        Criteria.replay_concat member _ (by rw [List.length_take]; omega), List.append_assoc,
        ← List.flatten_append, List.take_append_drop]

end

end Concatenation

end Replay

theorem Mapped.join?_eq (connective : Connective) (first second : Option Mapped) :
    Mapped.join? connective first second = connective.join? Mapped.join first second := by
  cases first <;> cases second <;> rfl

namespace Mapper

variable (mapper : Mapper)

mutual

theorem mapClause_eq : ∀ clause : Clause, mapper.mapClause clause = do
    let mapped ← clause.leaves.mapM mapper.mapPredicate
    return clause.replay Mapped.join Mapped.nested mapped
  | .blank => by
      simp [mapClause, Clause.leaves, Clause.replay]
  | .predicate tested => by
      simp [mapClause, Clause.leaves, Clause.replay]
  | .group members => by
      rw [mapClause, mapMembers_eq none members]
      simp [Clause.leaves, Clause.replay]

/-- A chain is mapped by mapping its predicates in order and replaying it on what came of them. -/
theorem mapChain_eq : ∀ criteria : Criteria, mapper.mapChain criteria = do
    let mapped ← criteria.leaves.mapM mapper.mapPredicate
    return criteria.replay Mapped.join Mapped.nested mapped
  | .start clause => mapClause_eq clause
  | .extend previous connective clause => by
      rw [mapChain, mapChain_eq previous, mapClause_eq clause, Criteria.leaves, List.mapM_append]
      simp only [bind_assoc, pure_bind]
      apply mapM_bind_congr
      intro first long
      apply bind_congr
      intro second
      rw [Criteria.replay, List.take_left' long, List.drop_left' long, Mapped.join?_eq]

theorem mapMembers_eq : ∀ (built : Option Mapped) (members : List Criteria),
    mapper.mapMembers built members = do
      let mapped ← (Criteria.allLeaves members).mapM mapper.mapPredicate
      return Criteria.replayAll Mapped.join Mapped.nested built members mapped
  | built, [] => by
      simp [mapMembers, Criteria.allLeaves, Criteria.replayAll]
  | built, member :: rest => by
      rw [mapMembers, mapChain_eq member, Criteria.allLeaves, List.mapM_append]
      simp only [bind_assoc, pure_bind]
      apply mapM_bind_congr
      intro first long
      rw [mapMembers_eq _ rest]
      apply bind_congr
      intro second
      rw [Criteria.replayAll, List.take_left' long, List.drop_left' long, Mapped.join?_eq]

end

end Mapper

end BindPlan
