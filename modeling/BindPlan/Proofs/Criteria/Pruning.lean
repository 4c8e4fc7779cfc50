import BindPlan.Proofs.Criteria.Emptiness

namespace BindPlan

mutual

/-- The clause without its empty parts, if it holds a predicate. -/
def Clause.prune? : Clause → Option Clause
  | .blank => none
  | .predicate tested => some (.predicate tested)
  | .group members =>
      let kept := Criteria.pruneAll members
      if kept.isEmpty then none else some (.group kept)

/-- The chain without its empty parts, if it holds a predicate. The first clause that is kept starts
the chain, and each further one keeps its connective. -/
def Criteria.prune? : Criteria → Option Criteria
  | .start clause => clause.prune?.map .start
  | .extend previous connective clause =>
      match previous.prune?, clause.prune? with
      | none, kept => kept.map .start
      | some previous, none => some previous
      | some previous, some kept => some (.extend previous connective kept)

def Criteria.pruneAll : List Criteria → List Criteria
  | [] => []
  | member :: rest => member.prune?.toList ++ Criteria.pruneAll rest

end

mutual

/-- Every clause of the clause holds a predicate, and so does every member of its groups. -/
def Clause.isDense : Clause → Bool
  | .blank => false
  | .predicate _ => true
  | .group members => !members.isEmpty && Criteria.allDense members

/-- Every clause of the chain holds a predicate, at every depth. -/
def Criteria.isDense : Criteria → Bool
  | .start clause => clause.isDense
  | .extend previous _ clause => previous.isDense && clause.isDense

def Criteria.allDense : List Criteria → Bool
  | [] => true
  | member :: rest => member.isDense && Criteria.allDense rest

end

mutual

theorem Clause.isNone_prune? : ∀ clause : Clause, clause.prune?.isNone = clause.isEmpty
  | .blank => rfl
  | .predicate _ => rfl
  | .group members => by
      rw [Clause.isEmpty, ← Criteria.isEmpty_pruneAll members, Clause.prune?]
      cases Criteria.pruneAll members <;> rfl

/-- Nothing of a chain is kept just where the chain is empty. -/
theorem Criteria.isNone_prune? : ∀ criteria : Criteria,
    criteria.prune?.isNone = criteria.isEmpty
  | .start clause => by
      rw [Criteria.isEmpty, ← Clause.isNone_prune? clause, Criteria.prune?, Option.isNone_map]
  | .extend previous connective clause => by
      rw [Criteria.isEmpty, ← Criteria.isNone_prune? previous, ← Clause.isNone_prune? clause,
        Criteria.prune?]
      cases previous.prune? <;> cases clause.prune? <;> rfl

theorem Criteria.isEmpty_pruneAll : ∀ members : List Criteria,
    (Criteria.pruneAll members).isEmpty = Criteria.allEmpty members
  | [] => rfl
  | member :: rest => by
      rw [Criteria.allEmpty, ← Criteria.isNone_prune? member, ← Criteria.isEmpty_pruneAll rest,
        Criteria.pruneAll]
      cases member.prune? <;> rfl

end

mutual

theorem Clause.isDense_prune? : ∀ clause : Clause, clause.prune?.all Clause.isDense = true
  | .blank => rfl
  | .predicate _ => rfl
  | .group members => by
      have dense := Criteria.allDense_pruneAll members
      rw [Clause.prune?]
      cases kept : Criteria.pruneAll members with
      | nil => rfl
      | cons first others =>
          rw [kept] at dense
          exact dense

/-- What is kept of a chain holds a predicate in each of its clauses. -/
theorem Criteria.isDense_prune? : ∀ criteria : Criteria,
    criteria.prune?.all Criteria.isDense = true
  | .start clause => by
      have dense := Clause.isDense_prune? clause
      rw [Criteria.prune?]
      cases kept : clause.prune? with
      | none => rfl
      | some kept => simpa [kept, Criteria.isDense] using dense
  | .extend previous connective clause => by
      have densePrevious := Criteria.isDense_prune? previous
      have dense := Clause.isDense_prune? clause
      rw [Criteria.prune?]
      cases keptPrevious : previous.prune? <;> cases kept : clause.prune? <;>
        simp_all [Criteria.isDense]

theorem Criteria.allDense_pruneAll : ∀ members : List Criteria,
    Criteria.allDense (Criteria.pruneAll members) = true
  | [] => rfl
  | member :: rest => by
      have dense := Criteria.isDense_prune? member
      have denseRest := Criteria.allDense_pruneAll rest
      rw [Criteria.pruneAll]
      cases kept : member.prune? <;> simp_all [Criteria.allDense]

end

/-- The chain with its first clause joined by a connective to a blank one. -/
def Criteria.afterBlank (connective : Connective) : Criteria → Criteria
  | .start clause => .extend .empty connective clause
  | .extend previous next clause => .extend (previous.afterBlank connective) next clause

theorem Criteria.prune?_afterBlank (connective : Connective) (criteria : Criteria) :
    (criteria.afterBlank connective).prune? = criteria.prune? := by
  fun_induction Criteria.afterBlank connective criteria with
  | case1 clause => rfl
  | case2 previous next clause inductionHypothesis =>
      rw [Criteria.prune?, inductionHypothesis, Criteria.prune?]

namespace Mapped

theorem join?_none (connective : Connective) (built : Option Mapped) :
    join? connective built none = built := by
  cases built <;> rfl

theorem none_join? (connective : Connective) : join? connective none = id := by
  funext next
  cases next <;> rfl

end Mapped

namespace Mapper

variable (mapper : Mapper)

mutual

theorem mapClause_prune? : ∀ clause : Clause,
    mapper.mapClause clause = clause.prune?.elim (pure none) mapper.mapClause
  | .blank => rfl
  | .predicate _ => rfl
  | .group members => by
      have same := mapMembers_pruneAll none members
      rw [Clause.prune?, mapClause, same]
      cases Criteria.pruneAll members <;> rfl

/-- A chain is mapped as what is kept of it, whatever the connectives of the clauses left out. -/
theorem mapChain_prune? : ∀ criteria : Criteria,
    mapper.mapChain criteria = criteria.prune?.elim (pure none) mapper.mapChain
  | .start clause => by
      rw [mapChain, mapClause_prune? clause, Criteria.prune?]
      cases clause.prune? <;> rfl
  | .extend previous connective clause => by
      rw [mapChain, mapChain_prune? previous, mapClause_prune? clause, Criteria.prune?]
      -- Nothing is neutral on either side of a joining, so the connective counts only between two.
      cases previous.prune? <;> cases clause.prune? <;>
        simp [mapChain, Mapped.join?_none, Mapped.none_join?]

theorem mapMembers_pruneAll : ∀ (built : Option Mapped) (members : List Criteria),
    mapper.mapMembers built members = mapper.mapMembers built (Criteria.pruneAll members)
  | _, [] => rfl
  | built, member :: rest => by
      rw [mapMembers, mapChain_prune? member, Criteria.pruneAll]
      cases member.prune? with
      | none =>
          rw [Option.elim_none, pure_bind, Mapped.join?_none]
          exact mapMembers_pruneAll built rest
      | some kept =>
          apply bind_congr
          intro next
          exact mapMembers_pruneAll _ rest

end

/-- Criteria that hold a predicate are mapped as what is kept of them: to the same condition and
bindings or to the same error, with the same state of the allocator. A connective before the first
clause that is kept makes no difference, nor do those of the clauses left out. -/
theorem map_pruned (criteria : Criteria) (nonempty : criteria.isEmpty = false) :
    ∃ pruned, criteria.prune? = some pruned ∧ pruned.isDense = true ∧
      ∀ (mapper : Mapper) (start : Allocator),
        (mapper.map criteria).run.run start = (mapper.map pruned).run.run start ∧
          ∀ connective, (mapper.map (pruned.afterBlank connective)).run.run start =
            (mapper.map pruned).run.run start := by
  obtain ⟨pruned, kept⟩ : ∃ pruned, criteria.prune? = some pruned := by
    rw [← Option.isSome_iff_exists, ← Option.not_isNone, criteria.isNone_prune?, nonempty,
      Bool.not_false]
  have dense : pruned.isDense = true := by
    have dense := criteria.isDense_prune?
    rwa [kept] at dense
  refine ⟨pruned, kept, dense, fun mapper start => ⟨?_, fun connective => ?_⟩⟩
  · rw [map, map, mapper.mapChain_prune? criteria, kept, Option.elim_some]
  · rw [map, map, mapper.mapChain_prune? (pruned.afterBlank connective),
      pruned.prune?_afterBlank, ← mapper.mapChain_prune? pruned]

/-- Empty parts stand before the first predicate, between OR and AND, at the end and within groups. -/
theorem map_pruned_grouped :
    let tested (name : String) (value : Int64) : Clause :=
      .predicate { property := name, test := .compare .eq (.int value) }
    let hollow : Clause := .group [.empty, .ofGroup [], .ofGroup [.empty, .empty]]
    let member : Criteria := .extend (.extend (.start .blank) .and hollow) .or (tested "b" 2)
    let criteria : Criteria :=
      .extend (.extend (.extend (.extend (.extend (.start hollow) .and .blank) .or (tested "a" 1))
        .or (.group [.empty, member, .ofGroup [.empty]])) .or hollow) .and (tested "c" 3)
    let pruned : Criteria :=
      .extend (.extend (.start (tested "a" 1)) .or (.group [.start (tested "b" 2)])) .and
        (tested "c" 3)
    criteria.isEmpty = false ∧ criteria.prune? = some pruned ∧ pruned.isDense = true ∧
      ∀ (mapper : Mapper) (start : Allocator),
        (mapper.map criteria).run.run start = (mapper.map pruned).run.run start ∧
          ∀ connective, (mapper.map (pruned.afterBlank connective)).run.run start =
            (mapper.map pruned).run.run start := by
  intro tested hollow member criteria pruned
  have nonempty : criteria.isEmpty = false := rfl
  obtain ⟨kept, found, dense, same⟩ := map_pruned criteria nonempty
  have pruning : criteria.prune? = some pruned := rfl
  cases found.symm.trans pruning
  exact ⟨nonempty, pruning, dense, same⟩

end Mapper

end BindPlan
