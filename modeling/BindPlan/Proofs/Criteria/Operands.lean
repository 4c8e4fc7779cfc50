import BindPlan.Proofs.Criteria.Leaves

namespace BindPlan

/-- A value on its way to a marker: its conversion, and the type that a null takes. -/
structure Operand where
  converted : Except Error Value
  declared : StorageType

/-- The binding receives what the conversion of the operand gives. -/
def Operand.Binds (operand : Operand) (binding : Binding) : Prop :=
  ∃ stored, operand.converted = .ok stored ∧ binding.value = .ofValue operand.declared stored

namespace Allocating

variable {A B : Type}

theorem nextFor_hands {hint : String} {marker : Marker} {start finish : Allocator}
    (succeeds : Succeeds (nextFor hint) start marker finish) : start.Hands [marker] finish := by
  have handed := Allocator.Hands.one start (some hint)
  change Allocator.Hands start [(start.nextFor hint).1] (start.nextFor hint).2 at handed
  rwa [succeeds_nextFor.mp succeeds] at handed

/-- Where each action of a row keeps to a relation and hands out the markers of its result, so does
the row. -/
theorem mapM_hands {action : A → Allocating B} {Keeps : A → B → Prop} {markers : B → List Marker}
    (step : ∀ {item start result finish}, Succeeds (action item) start result finish →
      Keeps item result ∧ start.Hands (markers result) finish)
    {items : List A} {start finish : Allocator} {results : List B}
    (succeeds : Succeeds (items.mapM action) start results finish) :
    List.Forall₂ Keeps items results ∧ start.Hands (results.flatMap markers) finish := by
  induction items generalizing start results with
  | nil =>
      obtain ⟨rfl, rfl⟩ := succeeds_mapM_nil.mp succeeds
      exact ⟨.nil, .none start⟩
  | cons item rest inductionHypothesis =>
      obtain ⟨result, between, results, head, tail, rfl⟩ := succeeds_mapM_cons.mp succeeds
      obtain ⟨keeps, first⟩ := step head
      obtain ⟨keepsRest, second⟩ := inductionHypothesis tail
      exact ⟨.cons keeps keepsRest, first.append second⟩

end Allocating

namespace Mapper

/-- The operand of a converter that is asked for a column of the declared type. -/
def stored (converter : Converter) (value : Value) (declared : StorageType) : Operand :=
  ⟨converter.toStorable value declared, declared⟩

/-- The operands of a predicate in the order of their markers. An array to be contained is one
operand, of which a null has no declared type. -/
def operands (mapper : Mapper) (predicate : Predicate) : List Operand :=
  let declared := mapper.declaredType predicate
  match predicate.test with
  | .compare _ value => [stored mapper.converter value declared]
  | .contains value => [⟨mapper.converter.toArray value declared.element, .unknown⟩]
  | .isIn _ values => values.map fun value => stored mapper.converter value declared.element
  | .between _ low high =>
      [stored mapper.converter low declared.element, stored mapper.converter high declared.element]
  | .isNull | .isNotNull | .isTrue | .isFalse => []

/-- The test asks what the predicate asks, without its negation, of the column of its property.
Its operands stand at markers. -/
def Tests (mapper : Mapper) (predicate : Predicate) (test : Test) : Prop :=
  let column : Expression :=
    .column (mapper.table.column (mapper.metadata.columnName predicate.property))
  match predicate.test with
  | .compare comparison value => ∃ marker,
      test = if predicate.ignoreCase && isTextual (mapper.declaredType predicate) value
        then .compare comparison (.upper column) (.upper (.marker marker))
        else .compare comparison column (.marker marker)
  | .contains _ => ∃ marker, test = .contains column (.marker marker)
  | .isIn _ values => ∃ markers : List Marker,
      markers.length = values.length ∧ test = .isIn column (markers.map .marker)
  | .between _ _ _ => ∃ low high, test = .between column (.marker low) (.marker high)
  | .isNull => test = .isNull column
  | .isNotNull => test = .isNotNull column
  | .isTrue => test = .compare .eq column (.bool true)
  | .isFalse => test = .compare .eq column (.bool false)

end Mapper

/-- The condition of a predicate with its positive test. A list without values needs no test. -/
def Predicate.condition (predicate : Predicate) (test : Test) : Condition :=
  match predicate.test with
  | .isIn negated [] => if negated then .alwaysTrue else .alwaysFalse
  | .isIn negated _ | .between negated _ _ => .negateIf negated (.test test)
  | _ => .test test

namespace Mapper

/-- The predicate is mapped to a condition on its test, with a binding for each operand. -/
structure Maps (mapper : Mapper) (predicate : Predicate) (test : Test) (mapped : Mapped) :
    Prop where
  tests : mapper.Tests predicate test
  condition : mapped.condition = predicate.condition test
  markers : test.markers = mapped.bindings.markers
  binds : List.Forall₂ Operand.Binds (mapper.operands predicate) mapped.bindings

open Allocating

variable {mapper : Mapper} {start finish : Allocator}

theorem bind_succeeds {converter : Converter} {column : String} {value : Value}
    {declared : StorageType} {binding : Binding}
    (succeeds : Succeeds (bind converter column value declared) start binding finish) :
    (stored converter value declared).Binds binding ∧ start.Hands [binding.marker] finish := by
  simp only [bind, succeeds_bind, succeeds_ofConversion, succeeds_pure] at succeeds
  obtain ⟨stored, _, ⟨converted, rfl⟩, marker, _, next, rfl, rfl⟩ := succeeds
  exact ⟨⟨stored, converted, rfl⟩, nextFor_hands next⟩

/-- The values of a list are bound one after the other. -/
theorem bindAll_succeeds {converter : Converter} {column : String} {values : List Value}
    {declared : StorageType} {bindings : Bindings}
    (succeeds : Succeeds (values.mapM fun value => bind converter column value declared) start
      bindings finish) :
    List.Forall₂ Operand.Binds (values.map fun value => stored converter value declared) bindings ∧
      start.Hands bindings.markers finish := by
  obtain ⟨binds, hands⟩ := mapM_hands bind_succeeds succeeds
  rw [List.forall₂_map_left_iff]
  refine ⟨binds, ?_⟩
  rwa [← List.map_eq_flatMap] at hands

theorem expression_markers_map (markers : List Marker) :
    (markers.map Expression.marker).flatMap Expression.markers = markers := by
  induction markers with
  | nil => rfl
  | cons marker rest inductionHypothesis =>
      rw [List.map_cons, List.flatMap_cons, inductionHypothesis]
      rfl

/-- A predicate that is mapped hands out the markers of its bindings. -/
theorem mapPredicate_succeeds {predicate : Predicate} {mapped : Mapped}
    (succeeds : Succeeds (mapper.mapPredicate predicate) start mapped finish) :
    (∃ test, mapper.Maps predicate test mapped) ∧
      start.Hands mapped.bindings.markers finish := by
  obtain ⟨property, test, ignoreCase⟩ := predicate
  cases test with
  | isIn negated values =>
      cases values with
      | nil =>
          obtain ⟨rfl, rfl⟩ := succeeds_pure.mp succeeds
          exact ⟨⟨_, ⟨[], rfl, rfl⟩, rfl, rfl, .nil⟩, .none start⟩
      | cons value values =>
          obtain ⟨bindings, last, binds, done⟩ := succeeds_bind.mp succeeds
          obtain ⟨rfl, rfl⟩ := succeeds_pure.mp done
          obtain ⟨binds, hands⟩ := bindAll_succeeds binds
          have operands : bindings.map (fun binding => Expression.marker binding.marker) =
              (Bindings.markers bindings).map Expression.marker := by
            rw [Bindings.markers, List.map_map]
            rfl
          have long : (Bindings.markers bindings).length = (value :: values).length := by
            rw [Bindings.markers, List.length_map, ← binds.length_eq, List.length_map]
          rw [operands]
          exact ⟨⟨_, ⟨_, long, rfl⟩, rfl, expression_markers_map _, binds⟩, hands⟩
  | between negated low high =>
      obtain ⟨first, between, binds, succeeds⟩ := succeeds_bind.mp succeeds
      obtain ⟨second, last, bindsNext, done⟩ := succeeds_bind.mp succeeds
      obtain ⟨rfl, rfl⟩ := succeeds_pure.mp done
      obtain ⟨binds, hands⟩ := bind_succeeds binds
      obtain ⟨bindsNext, handsNext⟩ := bind_succeeds bindsNext
      exact ⟨⟨_, ⟨_, _, rfl⟩, rfl, rfl, .cons binds (.cons bindsNext .nil)⟩,
        hands.append handsNext⟩
  | contains value =>
      simp only [mapPredicate] at succeeds
      split at succeeds
      · obtain ⟨stored, _, converts, succeeds⟩ := succeeds_bind.mp succeeds
        obtain ⟨converted, rfl⟩ := succeeds_ofConversion.mp converts
        obtain ⟨marker, last, next, done⟩ := succeeds_bind.mp succeeds
        obtain ⟨rfl, rfl⟩ := succeeds_pure.mp done
        exact ⟨⟨_, ⟨_, rfl⟩, rfl, rfl, .cons ⟨stored, converted, rfl⟩ .nil⟩, nextFor_hands next⟩
      · exact (not_succeeds_throw succeeds).elim
  | compare comparison value =>
      obtain ⟨binding, last, binds, done⟩ := succeeds_bind.mp succeeds
      obtain ⟨rfl, rfl⟩ := succeeds_pure.mp done
      obtain ⟨binds, hands⟩ := bind_succeeds binds
      refine ⟨⟨_, ⟨binding.marker, rfl⟩, ?_, ?_, .cons binds .nil⟩, hands⟩
      · unfold compared
        split <;> rfl
      · split <;> rfl
  | _ =>
      obtain ⟨rfl, rfl⟩ := succeeds_pure.mp succeeds
      exact ⟨⟨_, rfl, rfl, rfl, .nil⟩, .none start⟩

end Mapper

end BindPlan
