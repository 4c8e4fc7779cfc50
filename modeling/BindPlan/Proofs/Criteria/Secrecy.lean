import BindPlan.Proofs.Outcome

namespace BindPlan

namespace Allocating

variable {A B C D : Type} {view : A → C} {further : B → D}

/-- Two runs from one state that both succeed give results that look alike and leave the allocator in
one state. -/
structure Twins (view : A → C) (first second : Allocating A) : Prop where
  agree : ∀ {start finish last : Allocator} {value other : A}, Succeeds first start value finish →
    Succeeds second start other last → view value = view other ∧ finish = last

namespace Twins

theorem pure {value other : A} (same : view value = view other) :
    Twins view (pure value) (pure other) := by
  constructor
  intro start finish last _ _ first second
  obtain ⟨rfl, rfl⟩ := succeeds_pure.mp first
  obtain ⟨rfl, rfl⟩ := succeeds_pure.mp second
  exact ⟨same, rfl⟩

theorem throw (error : Error) (second : Allocating A) : Twins view (throw error) second := by
  constructor
  intro start finish last value other first
  exact (not_succeeds_throw first).elim

theorem nextFor (hint : String) : Twins id (nextFor hint) (nextFor hint) := by
  constructor
  intro start finish last marker other first second
  have same := (succeeds_nextFor.mp first).symm.trans (succeeds_nextFor.mp second)
  exact ⟨congrArg Prod.fst same, congrArg Prod.snd same⟩

/-- Nothing is said of the results of conversions. -/
theorem ofConversion (first second : Except Error A) :
    Twins (fun _ => ()) (ofConversion first) (ofConversion second) := by
  constructor
  intro start finish last value other succeeds succeedsOther
  obtain ⟨_, rfl⟩ := succeeds_ofConversion.mp succeeds
  obtain ⟨_, rfl⟩ := succeeds_ofConversion.mp succeedsOther
  exact ⟨rfl, rfl⟩

theorem bind {first second : Allocating A} {next behind : A → Allocating B}
    (twins : Twins view first second)
    (rest : ∀ value other, view value = view other → Twins further (next value) (behind other)) :
    Twins further (first >>= next) (second >>= behind) := by
  constructor
  intro start finish last value other succeeds succeedsOther
  obtain ⟨before, between, head, tail⟩ := succeeds_bind.mp succeeds
  obtain ⟨beforeOther, betweenOther, headOther, tailOther⟩ := succeeds_bind.mp succeedsOther
  obtain ⟨same, rfl⟩ := twins.agree head headOther
  exact (rest before beforeOther same).agree tail tailOther

/-- The result of twins is changed alike. -/
theorem map {first second : Allocating A} (change : A → B) (twins : Twins view first second)
    (same : ∀ value other, view value = view other → further (change value) = further (change other)) :
    Twins further (change <$> first) (change <$> second) := by
  rw [map_eq_pure_bind, map_eq_pure_bind]
  exact twins.bind fun value other alike => .pure (same value other alike)

/-- Rows of twins are twins. -/
theorem mapM {Item : Type} {Alike : Item → Item → Prop} {action : Item → Allocating A}
    (each : ∀ item other, Alike item other → Twins view (action item) (action other))
    {items others : List Item} (alike : List.Forall₂ Alike items others) :
    Twins (List.map view) (items.mapM action) (others.mapM action) := by
  induction alike with
  | nil => exact .pure rfl
  | @cons item other items others head rest inductionHypothesis =>
      rw [List.mapM_cons, List.mapM_cons]
      refine (each item other head).bind fun value twin same => ?_
      refine inductionHypothesis.bind fun values twins sames => .pure ?_
      rw [List.map_cons, List.map_cons, same, sames]

end Twins

end Allocating

/-- Two values of one kind: they are made by the same constructor and have the same type. -/
structure Value.Alike (first second : Value) : Prop where
  variant : first.ctorIdx = second.ctorIdx
  type : first.storageType = second.storageType

/-- Tests that differ in values of the same kinds alone. The operands of IN and BETWEEN count as one value,
whose type is that of the first operand that is not null. Under IN there are as many operands. -/
inductive PredicateTest.Alike : PredicateTest → PredicateTest → Prop
  | compare (comparison : Comparison) {first second : Value} (alike : first.Alike second) :
      Alike (.compare comparison first) (.compare comparison second)
  | contains {first second : Value} (alike : first.Alike second) :
      Alike (.contains first) (.contains second)
  | isIn (negated : Bool) {first second : List Value}
      (alike : (Value.list first).Alike (.list second)) (count : first.length = second.length) :
      Alike (.isIn negated first) (.isIn negated second)
  | between (negated : Bool) {low high otherLow otherHigh : Value}
      (alike : (Value.tuple [low, high]).Alike (.tuple [otherLow, otherHigh])) :
      Alike (.between negated low high) (.between negated otherLow otherHigh)
  | isNull : Alike .isNull .isNull
  | isNotNull : Alike .isNotNull .isNotNull
  | isTrue : Alike .isTrue .isTrue
  | isFalse : Alike .isFalse .isFalse

/-- Predicates of one property that differ in values of the same kinds alone. -/
structure Predicate.Alike (first second : Predicate) : Prop where
  property : first.property = second.property
  test : first.test.Alike second.test
  ignoreCase : first.ignoreCase = second.ignoreCase

mutual

/-- Clauses that differ in the values of their predicates alone. -/
inductive Clause.Alike : Clause → Clause → Prop
  | blank : Clause.Alike .blank .blank
  | predicate {first second : Predicate} (alike : first.Alike second) :
      Clause.Alike (.predicate first) (.predicate second)
  | group {first second : List Criteria} (alike : Criteria.AllAlike first second) :
      Clause.Alike (.group first) (.group second)

/-- Chains that differ in the values of their predicates alone. -/
inductive Criteria.Alike : Criteria → Criteria → Prop
  | start {first second : Clause} (alike : Clause.Alike first second) :
      Criteria.Alike (.start first) (.start second)
  | extend (connective : Connective) {before otherBefore : Criteria} {first second : Clause}
      (previous : Criteria.Alike before otherBefore) (alike : Clause.Alike first second) :
      Criteria.Alike (.extend before connective first) (.extend otherBefore connective second)

inductive Criteria.AllAlike : List Criteria → List Criteria → Prop
  | nil : Criteria.AllAlike [] []
  | cons {first second : Criteria} {rest others : List Criteria}
      (alike : Criteria.Alike first second) (behind : Criteria.AllAlike rest others) :
      Criteria.AllAlike (first :: rest) (second :: others)

end

theorem PredicateTest.Alike.operand {first second : PredicateTest} (alike : first.Alike second) :
    first.operand.Alike second.operand := by
  cases alike with
  | compare comparison alike => exact alike
  | contains alike => exact alike
  | isIn negated alike count => exact alike
  | between negated alike => exact alike
  | _ => exact ⟨rfl, rfl⟩

/-- What a mapping shows of its operands: the condition, and the markers of the bindings. -/
def Mapped.outline (mapped : Mapped) : Condition × List Marker :=
  (mapped.condition, mapped.bindings.markers)

theorem Mapped.outline_join {first second other twin : Mapped} (connective : Connective)
    (same : first.outline = other.outline) (sameNext : second.outline = twin.outline) :
    (first.join connective second).outline = (other.join connective twin).outline := by
  obtain ⟨condition, markers⟩ := Prod.mk.inj same
  obtain ⟨conditionNext, markersNext⟩ := Prod.mk.inj sameNext
  simp only [outline, join, Bindings.markers, List.map_append] at markers markersNext ⊢
  rw [condition, conditionNext, markers, markersNext]

theorem Mapped.outline_join? {built next other twin : Option Mapped} (connective : Connective)
    (same : built.map outline = other.map outline) (sameNext : next.map outline = twin.map outline) :
    (join? connective built next).map outline = (join? connective other twin).map outline := by
  cases built with
  | none =>
      cases other with
      | none => exact sameNext
      | some other => cases same
  | some built =>
      cases other with
      | none => cases same
      | some other =>
          cases next with
          | none =>
              cases twin with
              | none => exact same
              | some twin => cases sameNext
          | some next =>
              cases twin with
              | none => cases sameNext
              | some twin =>
                  exact congrArg some
                    (outline_join connective (Option.some.inj same) (Option.some.inj sameNext))

theorem Mapped.outline_nested {built other : Option Mapped}
    (same : built.map outline = other.map outline) :
    (built.map nested).map outline = (other.map nested).map outline := by
  have shape (mapped : Option Mapped) : (mapped.map nested).map outline =
      (mapped.map outline).map (Prod.map .nested id) := by
    cases mapped <;> rfl
  rw [shape, shape, same]

namespace Mapper

open Allocating

variable {mapper : Mapper}

/-- Whether a comparison ignores the case of letters depends on the kind of the value alone. -/
theorem isTextual_congr {first second : Value} (alike : first.Alike second)
    (declared : StorageType) : isTextual declared first = isTextual declared second := by
  have byKind (value : Value) : isTextual declared value =
      (declared == .text || declared == .unknown && value.ctorIdx == (Value.text "").ctorIdx) := by
    cases declared <;> cases value <;> rfl
  rw [byKind, byKind, alike.variant]

theorem bind_twins (converter : Converter) (column : String) (first second : Value)
    (declared : StorageType) :
    Twins Binding.marker (bind converter column first declared)
      (bind converter column second declared) := by
  refine (Twins.ofConversion _ _).bind fun _ _ _ => ?_
  exact (Twins.nextFor column).bind fun marker other same => .pure same

/-- Rows of values of one length are bound to the same markers. -/
theorem bindAll_twins (converter : Converter) (column : String) (declared : StorageType)
    {values others : List Value} (count : values.length = others.length) :
    Twins (List.map Binding.marker)
      (values.mapM fun value => bind converter column value declared)
      (others.mapM fun value => bind converter column value declared) := by
  have paired : List.Forall₂ (fun _ _ => True) values others :=
    List.forall₂_iff_zip.mpr ⟨count, fun _ => trivial⟩
  exact Twins.mapM (fun value other _ => bind_twins converter column value other declared) paired

theorem declaredType_congr {first second : Predicate} (alike : first.Alike second) :
    mapper.declaredType first = mapper.declaredType second := by
  rw [declaredType, declaredType, alike.property, alike.test.operand.type]

/-- Predicates that look alike are mapped alike. -/
theorem mapPredicate_twins {first second : Predicate} (alike : first.Alike second) :
    Twins Mapped.outline (mapper.mapPredicate first) (mapper.mapPredicate second) := by
  have declared : mapper.declaredType first = mapper.declaredType second := declaredType_congr alike
  obtain ⟨property, test, ignoreCase⟩ := first
  obtain ⟨otherProperty, otherTest, otherIgnoreCase⟩ := second
  obtain ⟨rfl, tests, rfl⟩ := alike
  cases tests with
  | compare comparison alike =>
      simp only [mapPredicate, declared, isTextual_congr alike]
      refine (bind_twins _ _ _ _ _).bind fun binding other same => .pure ?_
      simp only [Mapped.outline, compared, Bindings.markers, same, List.map_cons, List.map_nil]
  | contains alike =>
      simp only [mapPredicate, declared]
      split
      · refine (Twins.ofConversion _ _).bind fun _ _ _ => ?_
        refine (Twins.nextFor _).bind fun marker other same => .pure ?_
        cases same
        rfl
      · exact .throw _ _
  | @isIn negated values others alike count =>
      cases values with
      | nil =>
          rw [List.length_eq_zero_iff.mp count.symm]
          exact .pure rfl
      | cons value values =>
          obtain ⟨other, others, rfl⟩ := List.exists_cons_of_length_eq_add_one count.symm
          simp only [mapPredicate, declared]
          refine (bindAll_twins _ _ _ count).bind fun bindings twins same => .pure ?_
          have operands (row : Bindings) : row.map (fun binding => Expression.marker binding.marker) =
              (row.map Binding.marker).map .marker := by
            rw [List.map_map]
            rfl
          simp only [Mapped.outline, Bindings.markers, operands, same]
  | between negated alike =>
      simp only [mapPredicate, declared]
      refine (bind_twins _ _ _ _ _).bind fun low otherLow sameLow => ?_
      refine (bind_twins _ _ _ _ _).bind fun high otherHigh sameHigh => .pure ?_
      simp only [Mapped.outline, Bindings.markers, sameLow, sameHigh, List.map_cons, List.map_nil]
  | _ => exact .pure rfl

mutual

theorem mapClause_twins : ∀ {first second : Clause}, first.Alike second →
    Twins (Option.map Mapped.outline) (mapper.mapClause first) (mapper.mapClause second)
  | _, _, .blank => by
      rw [mapClause]
      exact .pure rfl
  | _, _, .predicate alike => by
      rw [mapClause, mapClause]
      exact (mapPredicate_twins alike).map some fun value other same => congrArg some same
  | _, _, .group alike => by
      rw [mapClause, mapClause]
      exact (mapMembers_twins rfl alike).bind fun built other same => .pure (Mapped.outline_nested same)

/-- Chains that look alike are mapped alike. -/
theorem mapChain_twins : ∀ {first second : Criteria}, first.Alike second →
    Twins (Option.map Mapped.outline) (mapper.mapChain first) (mapper.mapChain second)
  | _, _, .start alike => by
      rw [mapChain, mapChain]
      exact mapClause_twins alike
  | _, _, .extend connective previous alike => by
      rw [mapChain, mapChain]
      refine (mapChain_twins previous).bind fun built other same => ?_
      refine (mapClause_twins alike).bind fun next twin sameNext => .pure ?_
      exact Mapped.outline_join? connective same sameNext

theorem mapMembers_twins : ∀ {built other : Option Mapped} {first second : List Criteria},
    built.map Mapped.outline = other.map Mapped.outline → Criteria.AllAlike first second →
      Twins (Option.map Mapped.outline) (mapper.mapMembers built first)
        (mapper.mapMembers other second)
  | _, _, _, _, same, .nil => by
      rw [mapMembers, mapMembers]
      exact .pure same
  | _, _, _, _, same, .cons alike behind => by
      rw [mapMembers, mapMembers]
      refine (mapChain_twins alike).bind fun next twin sameNext => ?_
      exact mapMembers_twins (Mapped.outline_join? .and same sameNext) behind

end

/-- Criteria that look alike are mapped alike. -/
theorem map_twins {first second : Criteria} (alike : first.Alike second) :
    Twins Mapped.outline (mapper.map first) (mapper.map second) := by
  refine (mapChain_twins alike).bind fun built other same => ?_
  cases built with
  | none => exact .throw .emptyCriteria _
  | some mapped =>
      cases other with
      | none => cases same
      | some twin => exact .pure (Option.some.inj same)

end Mapper

mutual

theorem Clause.Alike.isEmpty_eq : ∀ {first second : Clause}, first.Alike second →
    first.isEmpty = second.isEmpty
  | _, _, .blank => rfl
  | _, _, .predicate _ => rfl
  | _, _, .group alike => Criteria.AllAlike.allEmpty_eq alike

/-- Criteria that look alike are empty together. -/
theorem Criteria.Alike.isEmpty_eq : ∀ {first second : Criteria}, first.Alike second →
    first.isEmpty = second.isEmpty
  | _, _, .start alike => Clause.Alike.isEmpty_eq alike
  | _, _, .extend _ previous alike => by
      rw [Criteria.isEmpty, Criteria.isEmpty, Criteria.Alike.isEmpty_eq previous,
        Clause.Alike.isEmpty_eq alike]

theorem Criteria.AllAlike.allEmpty_eq : ∀ {first second : List Criteria},
    Criteria.AllAlike first second → Criteria.allEmpty first = Criteria.allEmpty second
  | _, _, .nil => rfl
  | _, _, .cons alike behind => by
      rw [Criteria.allEmpty, Criteria.allEmpty, Criteria.Alike.isEmpty_eq alike,
        Criteria.AllAlike.allEmpty_eq behind]

end

end BindPlan
