import BindPlan.Proofs.Condition.Interleaving
import BindPlan.Proofs.Criteria.Emptiness
import BindPlan.Proofs.Template.Bare

/-!
Criteria mapped for several dialects. Mapping commutes with making markers bare, and a dialect is asked
for nothing but whether it compares arrays, so mappings for two dialects differ in the placeholders and
targets of their markers alone.
-/

namespace BindPlan

/-- The mapped condition and its bindings with bare markers. -/
def Mapped.bare (mapped : Mapped) : Mapped :=
  ⟨mapped.condition.mapMarkers Marker.bare, mapped.bindings.map Binding.bare⟩

theorem Mapped.bare_respects :
    Criteria.Respects Mapped.bare Mapped.join Mapped.nested Mapped.join Mapped.nested := by
  refine ⟨fun connective first second => ?_, fun _ => rfl⟩
  cases connective <;> simp [bare, join, Condition.join, Condition.mapMarkers]

namespace Allocating

variable {A B : Type} {view : A → A} {further : B → B}

/-- From a bare allocator the plain action does what the other one does, its result seen through a view.
They fail with one error. -/
def Strips (view : A → A) (action plain : Allocating A) : Prop :=
  ∀ start : Allocator, plain.run.run start.bare =
    Prod.map (Except.map view) Allocator.bare (action.run.run start)

namespace Strips

theorem pure {value plain : A} (same : plain = view value) :
    Strips view (pure value) (pure plain) := by
  intro start
  rw [same]
  rfl

theorem throw (error : Error) : Strips view (throw error) (throw error) := fun _ => rfl

theorem nextFor (hint : String) : Strips Marker.bare (nextFor hint) (nextFor hint) := by
  intro start
  change Prod.map Except.ok id (start.bare.allocate (some hint)) = _
  rw [start.allocate_bare]
  rfl

theorem ofConversion (conversion : Except Error A) :
    Strips id (ofConversion conversion) (ofConversion conversion) := by
  intro start
  cases conversion <;> rfl

theorem bind {action plain : Allocating A} {next following : A → Allocating B}
    (first : Strips view action plain)
    (rest : ∀ value, Strips further (next value) (following (view value))) :
    Strips further (action >>= next) (plain >>= following) := by
  intro start
  rw [run_bind, run_bind, first start]
  rcases action.run.run start with ⟨error | value, between⟩
  · rfl
  · exact rest value between

theorem mapM {Item : Type} {action plain : Item → Allocating A}
    (each : ∀ item, Strips view (action item) (plain item)) (items : List Item) :
    Strips (List.map view) (items.mapM action) (items.mapM plain) := by
  induction items with
  | nil => exact .pure rfl
  | cons item rest inductionHypothesis =>
      rw [List.mapM_cons, List.mapM_cons]
      exact (each item).bind fun value => inductionHypothesis.bind fun values => .pure rfl

end Strips

end Allocating

namespace Mapper

open Allocating

variable (mapper : Mapper)

theorem bind_strips (converter : Converter) (column : String) (value : Value)
    (declared : StorageType) :
    Strips Binding.bare (bind converter column value declared)
      (bind converter column value declared) :=
  (Strips.ofConversion _).bind fun _ => (Strips.nextFor column).bind fun _ => .pure rfl

/-- The condition of a predicate is built alike of bare markers. -/
theorem mapPredicate_strips (predicate : Predicate) :
    Strips Mapped.bare (mapper.mapPredicate predicate) (mapper.mapPredicate predicate) := by
  obtain ⟨property, test, ignoreCase⟩ := predicate
  cases test with
  | compare comparison value =>
      refine (bind_strips _ _ value _).bind fun binding => .pure ?_
      simp only [Mapped.bare, compared]
      split <;> rfl
  | contains value =>
      simp only [mapPredicate]
      split
      · exact (Strips.ofConversion _).bind fun _ => (Strips.nextFor _).bind fun _ => .pure rfl
      · exact .throw _
  | isIn negated values =>
      cases values with
      | nil => cases negated <;> exact .pure rfl
      | cons value values =>
          refine (Strips.mapM (fun value => bind_strips _ _ value _) _).bind fun bindings => .pure ?_
          have operands : (bindings.map Binding.bare).map (fun binding => Expression.marker binding.marker) =
              (bindings.map fun binding => Expression.marker binding.marker).map
                (Expression.mapMarkers Marker.bare) := by
            rw [List.map_map, List.map_map]
            rfl
          rw [operands]
          cases negated <;> rfl
  | between negated low high =>
      refine (bind_strips _ _ low _).bind fun low => (bind_strips _ _ high _).bind fun high => .pure ?_
      cases negated <;> rfl
  | _ => exact .pure rfl

/-- Mapping commutes with making markers bare, and is refused alike. -/
theorem map_strips (criteria : Criteria) :
    Strips Mapped.bare (mapper.map criteria) (mapper.map criteria) := by
  have chain : Strips (Option.map Mapped.bare) (mapper.mapChain criteria) (mapper.mapChain criteria) := by
    rw [mapChain_eq]
    refine (Strips.mapM mapper.mapPredicate_strips criteria.leaves).bind fun parts => .pure ?_
    exact (criteria.replay_map Mapped.bare_respects parts).symm
  refine chain.bind fun mapped => ?_
  cases mapped with
  | none => exact .throw _
  | some mapped => exact .pure rfl

/-- The same mapping in another dialect. -/
def speaking (dialect : Dialect) : Mapper := { mapper with dialect }

variable {mapper} {dialect : Dialect} {criteria : Criteria}

/-- A dialect is only asked whether it compares arrays. -/
theorem mapPredicate_speaking {predicate : Predicate}
    (compares : predicate.test.isContainment = true →
      mapper.dialect.comparesArrays = true ∧ dialect.comparesArrays = true) :
    (mapper.speaking dialect).mapPredicate predicate = mapper.mapPredicate predicate := by
  obtain ⟨property, test, ignoreCase⟩ := predicate
  cases test with
  | contains value =>
      obtain ⟨here, there⟩ := compares rfl
      have other : (mapper.speaking dialect).dialect.comparesArrays = true := there
      simp only [mapPredicate, here, other, if_true]
      rfl
  | isIn negated values => cases values <;> rfl
  | _ => rfl

theorem map_speaking
    (compares : ∀ predicate ∈ criteria.leaves, predicate.test.isContainment = true →
      mapper.dialect.comparesArrays = true ∧ dialect.comparesArrays = true) :
    (mapper.speaking dialect).map criteria = mapper.map criteria := by
  have leaves : criteria.leaves.mapM (mapper.speaking dialect).mapPredicate =
      criteria.leaves.mapM mapper.mapPredicate := by
    generalize criteria.leaves = predicates at compares
    induction predicates with
    | nil => rfl
    | cons predicate rest inductionHypothesis =>
        obtain ⟨head, tail⟩ := List.forall_mem_cons.mp compares
        rw [List.mapM_cons, List.mapM_cons, mapPredicate_speaking head, inductionHypothesis tail]
  rw [map, map, mapChain_eq, mapChain_eq, leaves]

/-- Where a test for containment is mapped, the dialect compares arrays. -/
theorem comparesArrays_of_maps {start : Allocator} {mapped : Mapped}
    (maps : ((mapper.map criteria).run.run start).1 = .ok mapped) :
    ∀ predicate ∈ criteria.leaves, predicate.test.isContainment = true →
      mapper.dialect.comparesArrays = true := by
  intro predicate member contains
  by_contra lacks
  have refused : mapper.refusal? predicate = some (.unsupportedContainment mapper.dialect) := by
    rw [refusal?, contains, if_pos (by simpa using lacks)]
  cases reported : criteria.leaves.findSome? mapper.refusal? with
  | none => cases refused.symm.trans (List.findSome?_eq_none_iff.mp reported predicate member)
  | some error =>
      have fails := (mapper.map_error_iff criteria start error).mpr (.inr reported)
      rw [maps] at fails
      cases fails

/-- From two allocators that have handed out as many markers, a mapping gives the same but for what the
markers look like. -/
theorem map_bare_congr {start other : Allocator} (counted : start.allocated = other.allocated) :
    ((mapper.map criteria).run.run start).1.map Mapped.bare =
      ((mapper.map criteria).run.run other).1.map Mapped.bare := by
  have same : start.bare = other.bare := by rw [Allocator.bare, Allocator.bare, counted]
  have plain := mapper.map_strips criteria start
  rw [same, mapper.map_strips criteria other] at plain
  exact (congrArg Prod.fst plain).symm

/-- Criteria that one dialect maps are mapped by another one to the same condition and the same values,
its markers told apart by their ordinals alone, whatever the styles of the markers are. They are mapped
by the other one unless they ask for containment and it cannot compare arrays. -/
theorem map_portable (mapper : Mapper) (dialect : Dialect) (style other : MarkerStyle)
    (criteria : Criteria) (mapped : Mapped)
    (maps : ((mapper.map criteria).run.run style.allocator).1 = .ok mapped) :
    (∀ twin, (((mapper.speaking dialect).map criteria).run.run other.allocator).1 = .ok twin →
      twin.bare = mapped.bare) ∧
    ((∃ twin, (((mapper.speaking dialect).map criteria).run.run other.allocator).1 = .ok twin) ↔
      ((∃ predicate ∈ criteria.leaves, predicate.test.isContainment = true) →
        dialect.comparesArrays = true)) := by
  have same (compares : (∃ predicate ∈ criteria.leaves, predicate.test.isContainment = true) →
      dialect.comparesArrays = true) :
      (((mapper.speaking dialect).map criteria).run.run other.allocator).1.map Mapped.bare =
        .ok mapped.bare := by
    have moved : ((mapper.map criteria).run.run other.allocator).1.map Mapped.bare =
        ((mapper.map criteria).run.run style.allocator).1.map Mapped.bare := map_bare_congr rfl
    rw [map_speaking fun predicate member contains =>
        ⟨comparesArrays_of_maps maps predicate member contains, compares ⟨predicate, member, contains⟩⟩,
      moved, maps]
    rfl
  have needs {twin : Mapped}
      (mapsTwin : (((mapper.speaking dialect).map criteria).run.run other.allocator).1 = .ok twin) :
      (∃ predicate ∈ criteria.leaves, predicate.test.isContainment = true) →
        dialect.comparesArrays = true := by
    rintro ⟨predicate, member, contains⟩
    exact comparesArrays_of_maps mapsTwin predicate member contains
  refine ⟨fun twin mapsTwin => ?_, fun ⟨twin, mapsTwin⟩ => needs mapsTwin, fun compares => ?_⟩
  · have bare := same (needs mapsTwin)
    rw [mapsTwin] at bare
    exact Except.ok.inj bare
  · obtain ⟨twin, mapsTwin, _⟩ := map_eq_ok.mp (same compares)
    exact ⟨twin, mapsTwin⟩

/-- The names of SQL Server are taken from a column, and numbered where they would be equal. The number in
the list is bound as a text in either dialect, and the null keeps the type of the column. -/
theorem map_portable_named :
    let mapper : Mapper :=
      ⟨.postgres, .standard, .ofList [("name", "n", .text)], { name := "t" }⟩
    let criteria : Criteria :=
      .extend ((Criteria.property "name" (.compare .like (.text "a%"))).ignoreCase true) .or
        (.predicate { property := "name", test := .isIn true [.int 1, .null] })
    let column : Expression := .column ⟨some "t", "n"⟩
    let mapped (first second third : Marker) : Mapped :=
      ⟨.or (.compare .like (.upper column) (.upper (.marker first)))
          (.not (.test (.isIn column [.marker second, .marker third]))),
        [⟨first, .value (.text "a%")⟩, ⟨second, .value (.text "1")⟩, ⟨third, .null .text⟩]⟩
    let numbered : Mapped := mapped ⟨"$1", .index 0, 0⟩ ⟨"$2", .index 1, 1⟩ ⟨"$3", .index 2, 2⟩
    let named : Mapped :=
      mapped ⟨"@n", .name "n", 0⟩ ⟨"@n_1", .name "n_1", 1⟩ ⟨"@n_2", .name "n_2", 2⟩
    let outcome (dialect : Dialect) (style : MarkerStyle) : Except Error Mapped :=
      (((mapper.speaking dialect).map criteria).run.run style.allocator).1
    outcome .postgres (.indexed "$" 1) = .ok numbered ∧
      outcome .sqlserver (.named "@" "P" 32) = .ok named ∧
      named.bare = numbered.bare ∧
      ((∃ twin, outcome .oracle (.named ":" "P" 30) = .ok twin) ↔
        ((∃ predicate ∈ criteria.leaves, predicate.test.isContainment = true) →
          Dialect.oracle.comparesArrays = true)) := by
  intro mapper criteria column mapped numbered named outcome
  have maps : ((mapper.map criteria).run.run (MarkerStyle.indexed "$" 1).allocator).1 =
      .ok numbered := by rfl
  have mapsNamed : (((mapper.speaking .sqlserver).map criteria).run.run
      (MarkerStyle.named "@" "P" 32).allocator).1 = .ok named := by decide +kernel
  have other := map_portable mapper .sqlserver (.indexed "$" 1) (.named "@" "P" 32) criteria numbered maps
  have third := map_portable mapper .oracle (.indexed "$" 1) (.named ":" "P" 30) criteria numbered maps
  exact ⟨maps, mapsNamed, other.1 named mapsNamed, third.2⟩

end Mapper

end BindPlan
