import BindPlan.Proofs.Criteria.Emptiness
import BindPlan.Proofs.Criteria.Replay

namespace BindPlan

/-- What an operand is bound as, or the error that it is refused with. -/
def Operand.bound (operand : Operand) : Except Error BindValue :=
  BindValue.ofValue operand.declared <$> operand.converted

namespace Operand

theorem bound_of_binds {operand : Operand} {binding : Binding} (binds : operand.Binds binding) :
    operand.bound = .ok binding.value := by
  obtain ⟨stored, converted, value⟩ := binds
  rw [bound, converted, value]
  rfl

theorem mapM_bound_of_binds {operands : List Operand} {bindings : Bindings}
    (binds : List.Forall₂ Operand.Binds operands bindings) :
    operands.mapM bound = .ok (bindings.map Binding.value) := by
  induction binds with
  | nil => rfl
  | cons head rest inductionHypothesis =>
      rw [List.mapM_cons, bound_of_binds head, inductionHypothesis]
      rfl

/-- The first operand that is rejected is the error of the row. -/
theorem mapM_bound_of_refusal? {operands : List Operand} {error : Error}
    (refused : operands.findSome? refusal? = some error) : operands.mapM bound = .error error := by
  induction operands with
  | nil => cases refused
  | cons operand rest inductionHypothesis =>
      obtain ⟨converted, declared⟩ := operand
      rw [List.mapM_cons]
      cases converted with
      | error fault =>
          obtain rfl : fault = error := Option.some.inj refused
          rfl
      | ok stored =>
          have behind : rest.findSome? refusal? = some error := refused
          rw [inductionHypothesis behind]
          rfl

end Operand

namespace Mapper

/-- What a test of a property binds when it is mapped, in textual order, or the error that it is refused
with. -/
def bound (mapper : Mapper) (start : Allocator) (property : String) (test : PredicateTest) :
    Except Error (List BindValue) :=
  (fun mapped => mapped.bindings.map Binding.value) <$>
    ((mapper.map (.property property test)).run.run start).1

/-- The mapper with a type declared for a property. Its column stays as it is. -/
def declaring (mapper : Mapper) (property : String) (type : StorageType) : Mapper :=
  { mapper with metadata := mapper.metadata.insert property (mapper.metadata.columnName property) type }

/-- A test binds what the conversions of its operands give, and is refused with their first error. -/
theorem bound_eq (mapper : Mapper) (start : Allocator) (property : String) {test : PredicateTest}
    (tests : test.isContainment = false) :
    mapper.bound start property test = (mapper.operands { property, test }).mapM Operand.bound := by
  rw [bound]
  rcases maps : (mapper.map (.property property test)).run.run start with ⟨error | mapped, finish⟩
  · have refused := (mapper.map_error_iff (.property property test) start error).mp
      (congrArg Prod.fst maps)
    have reported : (mapper.operands { property, test }).findSome? Operand.refusal? = some error := by
      simpa [Criteria.property, Criteria.leaves, Clause.leaves, refusal?, tests] using refused
    rw [Operand.mapM_bound_of_refusal? reported]
    rfl
  · obtain ⟨_, _, binds⟩ := map_binds maps
    have operands : List.Forall₂ Operand.Binds (mapper.operands { property, test }) mapped.bindings := by
      simpa [Criteria.property, Criteria.leaves, Clause.leaves] using binds
    rw [Operand.mapM_bound_of_binds operands]
    rfl

variable {mapper : Mapper} {property : String} {type : StorageType}

theorem type?_declaring :
    (mapper.declaring property type).metadata.type? property = some type := by
  simp [declaring, Metadata.insert, Metadata.type?]

/-- An equality binds the value that it compares with. -/
theorem bound_equality (declares : mapper.metadata.type? property = some type) (start : Allocator)
    (value : Value) :
    mapper.bound start property (.compare .eq value) =
      List.singleton <$> (stored mapper.converter value type).bound := by
  have compared : mapper.operands { property, test := .compare .eq value } =
      [stored mapper.converter value type] := by
    simp [operands, declaredType, declares]
  rw [mapper.bound_eq start property rfl, compared, List.mapM_cons, List.mapM_nil]
  cases (stored mapper.converter value type).bound <;> rfl

/-- A list binds its values as values of the element type. -/
theorem bound_isIn (declares : mapper.metadata.type? property = some type) (start : Allocator)
    (negated : Bool) (values : List Value) :
    mapper.bound start property (.isIn negated values) =
      values.mapM fun value => (stored mapper.converter value type.element).bound := by
  have listed : mapper.operands { property, test := .isIn negated values } =
      values.map fun value => stored mapper.converter value type.element := by
    simp [operands, declaredType, declares]
  rw [mapper.bound_eq start property rfl, listed, List.mapM_map]
  rfl

/-- A range binds its bounds as values of the element type. -/
theorem bound_between (declares : mapper.metadata.type? property = some type) (start : Allocator)
    (negated : Bool) (low high : Value) :
    mapper.bound start property (.between negated low high) =
      [low, high].mapM fun value => (stored mapper.converter value type.element).bound := by
  have bounds : mapper.operands { property, test := .between negated low high } =
      [low, high].map fun value => stored mapper.converter value type.element := by
    simp [operands, declaredType, declares]
  rw [mapper.bound_eq start property rfl, bounds, List.mapM_map]
  rfl

/-- Equalities one after the other bind what their values do in a row. -/
theorem mapM_bound_equality (declares : mapper.metadata.type? property = some type)
    (start : Allocator) (values : List Value) :
    (List.flatten <$> values.mapM fun value => mapper.bound start property (.compare .eq value)) =
      values.mapM fun value => (stored mapper.converter value type).bound := by
  simp only [bound_equality declares]
  induction values with
  | nil => rfl
  | cons value rest inductionHypothesis =>
      rw [List.mapM_cons, List.mapM_cons, ← inductionHypothesis]
      cases (stored mapper.converter value type).bound with
      | error error => rfl
      | ok bound =>
          cases rest.mapM fun value => List.singleton <$> (stored mapper.converter value type).bound <;>
            rfl

/-- The values of a list and the bounds of a range are bound as equalities would bind them if the element
type of the property were declared for it, and are refused as the first of them is. Unless the property
is an array, this is what equalities with the property itself do. -/
theorem bound_elementwise (mapper : Mapper) (property : String) (declared : StorageType)
    (declares : mapper.metadata.type? property = some declared) (start other : Allocator)
    (negated : Bool) :
    (∀ values,
      mapper.bound start property (.isIn negated values) =
        List.flatten <$> values.mapM fun value =>
          (mapper.declaring property declared.element).bound other property (.compare .eq value)) ∧
    (∀ low high,
      mapper.bound start property (.between negated low high) =
        List.flatten <$> [low, high].mapM fun value =>
          (mapper.declaring property declared.element).bound other property (.compare .eq value)) ∧
    ((∀ item, declared ≠ .array item) →
      (∀ value, mapper.bound start property (.isIn negated [value]) =
        mapper.bound other property (.compare .eq value)) ∧
      ∀ low high, mapper.bound start property (.between negated low high) =
        List.flatten <$> [low, high].mapM fun value =>
          mapper.bound other property (.compare .eq value)) := by
  refine ⟨fun values => ?_, fun low high => ?_, fun scalar => ?_⟩
  · rw [bound_isIn declares, mapM_bound_equality type?_declaring]
    rfl
  · rw [bound_between declares, mapM_bound_equality type?_declaring]
    rfl
  · have same : declared.element = declared := by
      cases declared with
      | array item => exact absurd rfl (scalar item)
      | _ => rfl
    refine ⟨fun value => ?_, fun low high => ?_⟩
    · rw [bound_isIn declares, bound_equality declares, same, List.mapM_cons, List.mapM_nil]
      cases (stored mapper.converter value declared).bound <;> rfl
    · rw [bound_between declares, mapM_bound_equality declares, same]

/-- The first number that is no truth value is refused, alone or as a bound. A null in a list takes the
element type, and a number is widened by a list as by an equality. -/
theorem bound_elementwise_refused :
    let mapper : Mapper := ⟨.oracle, .standard,
      .ofList [("flags", "f", .array .bool), ("rate", "rate", .float)], { name := "t" }⟩
    let start := Dialect.oracle.markerStyle.allocator
    let flags := mapper.declaring "flags" .bool
    let refusal : Error := .conversion (.notBoolean 5)
    mapper.metadata.type? "flags" = some (.array .bool) ∧
      mapper.metadata.type? "rate" = some .float ∧
      mapper.bound start "flags" (.isIn true [.int 1, .null]) = .ok [.value (.bool true), .null .bool] ∧
      mapper.bound start "flags" (.isIn true [.int 1, .null]) =
        List.flatten <$> [.int 1, .null].mapM (fun value =>
          flags.bound start "flags" (.compare .eq value)) ∧
      mapper.bound start "flags" (.between true (.int 0) (.int 5)) = .error refusal ∧
      mapper.bound start "flags" (.between true (.int 0) (.int 5)) =
        List.flatten <$> [.int 0, .int 5].mapM (fun value =>
          flags.bound start "flags" (.compare .eq value)) ∧
      mapper.bound start "rate" (.isIn true [.int 3]) =
        mapper.bound start "rate" (.compare .eq (.int 3)) := by
  intro mapper start flags refusal
  have array : mapper.metadata.type? "flags" = some (.array .bool) := by decide
  have float : mapper.metadata.type? "rate" = some .float := by decide
  have listed : mapper.bound start "flags" (.isIn true [.int 1, .null]) =
      .ok [.value (.bool true), .null .bool] := by rfl
  have bounds : mapper.bound start "flags" (.between true (.int 0) (.int 5)) = .error refusal := by rfl
  obtain ⟨lists, ranges, _⟩ := bound_elementwise mapper "flags" (.array .bool) array start start true
  obtain ⟨_, _, scalars⟩ := bound_elementwise mapper "rate" .float float start start true
  obtain ⟨scalar, _⟩ := scalars fun item => by simp
  exact ⟨array, float, listed, lists _, bounds, ranges _ _, scalar _⟩

/-- For an array of fractions an equality binds a number as it is, and a list makes it a fraction. -/
theorem bound_array_apart :
    let mapper : Mapper :=
      ⟨.postgres, .standard, .ofList [("x", "x", .array .float)], { name := "t" }⟩
    let start := Dialect.postgres.markerStyle.allocator
    mapper.metadata.type? "x" = some (.array .float) ∧
      mapper.bound start "x" (.compare .eq (.int 3)) = .ok [.value (.int 3)] ∧
      mapper.bound start "x" (.isIn false [.int 3]) = .ok [.value (.float (.ofInt 3))] ∧
      mapper.bound start "x" (.isIn false [.int 3]) ≠
        mapper.bound start "x" (.compare .eq (.int 3)) := by
  intro mapper start
  have declares : mapper.metadata.type? "x" = some (.array .float) := by decide
  have equality : mapper.bound start "x" (.compare .eq (.int 3)) = .ok [.value (.int 3)] := by rfl
  have listed : mapper.bound start "x" (.isIn false [.int 3]) =
      .ok [.value (.float (.ofInt 3))] := by
    rw [bound_isIn declares]
    rfl
  refine ⟨declares, equality, listed, ?_⟩
  rw [equality, listed]
  simp

end Mapper

end BindPlan
