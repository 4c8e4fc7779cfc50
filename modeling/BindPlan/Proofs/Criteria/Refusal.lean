import BindPlan.Proofs.Criteria.Operands
import BindPlan.Proofs.Value.Conversion

namespace BindPlan

namespace Allocating

variable {A B : Type}

/-- The action fails with the reported error from every state, and does not fail without a report. -/
def Refuses (action : Allocating A) (report : Option Error) : Prop :=
  ∀ start error, (action.run.run start).1 = .error error ↔ report = some error

theorem refuses_pure (value : A) : Refuses (pure value) none := by
  intro start error
  constructor <;> intro refuses <;> cases refuses

theorem refuses_throw (error : Error) : Refuses (throw error : Allocating A) (some error) := by
  intro start other
  change Except.error error = Except.error other ↔ some error = some other
  rw [Except.error.injEq, Option.some.injEq]

theorem refuses_nextFor (hint : String) : Refuses (nextFor hint) none := by
  intro start error
  constructor <;> intro refuses <;> cases refuses

/-- A sequence reports what its first part reports, or else what the rest reports after it. -/
theorem refuses_bind {action : Allocating A} {next : A → Allocating B} {report following : Option Error}
    (first : Refuses action report)
    (rest : ∀ {start value finish}, Succeeds action start value finish →
      Refuses (next value) following) :
    Refuses (action >>= next) (report.or following) := by
  intro start error
  rw [run_bind]
  have reports := first start
  rcases ran : action.run.run start with ⟨refusal | value, between⟩
  · rw [ran] at reports
    rw [(reports refusal).mp rfl]
    change Except.error refusal = Except.error error ↔ some refusal = some error
    rw [Except.error.injEq, Option.some.injEq]
  · rw [ran] at reports
    have accepted : report = none := by
      apply Option.eq_none_iff_forall_ne_some.mpr
      intro refusal reported
      cases (reports refusal).mpr reported
    rw [accepted]
    exact rest ran between error

theorem refuses_map {action : Allocating A} {report : Option Error} (refuses : Refuses action report)
    (change : A → B) : Refuses (do return change (← action)) report := by
  have whole : Refuses (do return change (← action)) (report.or none) :=
    refuses_bind refuses fun _ => refuses_pure _
  rwa [Option.or_none] at whole

/-- A row of actions reports what the first of them reports that reports anything. -/
theorem refuses_mapM {action : A → Allocating B} {report : A → Option Error}
    (each : ∀ item, Refuses (action item) (report item)) (items : List A) :
    Refuses (items.mapM action) (items.findSome? report) := by
  induction items with
  | nil => exact refuses_pure []
  | cons item rest inductionHypothesis =>
      have whole : Refuses ((item :: rest).mapM action) ((report item).or (rest.findSome? report)) := by
        rw [List.mapM_cons]
        exact refuses_bind (each item) fun _ => refuses_map inductionHypothesis _
      rw [List.findSome?_cons]
      cases reported : report item <;> simpa [reported] using whole

end Allocating

/-- The error with which the converter rejects an operand. -/
def Operand.refusal? (operand : Operand) : Option Error :=
  match operand.converted with
  | .ok _ => none
  | .error error => some error

theorem Operand.converted_of_refusal? {operand : Operand} {error : Error}
    (rejected : operand.refusal? = some error) : operand.converted = .error error := by
  rw [refusal?] at rejected
  split at rejected <;> cases rejected
  assumption

/-- The test asks whether an array contains another. -/
def PredicateTest.isContainment : PredicateTest → Bool
  | .contains _ => true
  | _ => false

namespace Mapper

/-- The error of a predicate that cannot be mapped: the dialect lacks its test, or else the converter
rejects one of its operands, of which the first is reported. -/
def refusal? (mapper : Mapper) (predicate : Predicate) : Option Error :=
  if predicate.test.isContainment && !mapper.dialect.comparesArrays then
    some (.unsupportedContainment mapper.dialect)
  else (mapper.operands predicate).findSome? Operand.refusal?

open Allocating

variable {mapper : Mapper}

theorem refuses_ofConversion (operand : Operand) :
    Refuses (ofConversion operand.converted) operand.refusal? := by
  obtain ⟨converted, declared⟩ := operand
  cases converted with
  | error fault => exact refuses_throw _
  | ok stored => exact refuses_pure stored

/-- What converts an operand and takes a marker for it reports what the converter does. -/
theorem refuses_convert {A : Type} (operand : Operand) (hint : String) (result : Value → Marker → A) :
    Refuses (do
      let stored ← ofConversion operand.converted
      let marker ← nextFor hint
      return result stored marker) operand.refusal? := by
  have whole := refuses_bind (refuses_ofConversion operand) fun {_ stored _} _ =>
    refuses_map (refuses_nextFor hint) (result stored)
  rwa [Option.or_none] at whole

theorem refuses_bound (converter : Converter) (column : String) (value : Value)
    (declared : StorageType) :
    Refuses (bind converter column value declared) (stored converter value declared).refusal? :=
  refuses_convert (stored converter value declared) column _

/-- A predicate is refused where it is reported. -/
theorem refuses_mapPredicate (predicate : Predicate) :
    Refuses (mapper.mapPredicate predicate) (mapper.refusal? predicate) := by
  obtain ⟨property, test, ignoreCase⟩ := predicate
  cases test with
  | isIn negated values =>
      cases values with
      | nil => exact refuses_pure _
      | cons value values =>
          have operands : mapper.refusal? ⟨property, .isIn negated (value :: values), ignoreCase⟩ =
              (value :: values).findSome? (Operand.refusal? ∘ _) :=
            List.findSome?_map
          rw [operands]
          exact refuses_map (refuses_mapM (refuses_bound mapper.converter _ · _) _) _
  | between negated low high =>
      let declared := (mapper.declaredType ⟨property, .between negated low high, ignoreCase⟩).element
      have operands : mapper.refusal? ⟨property, .between negated low high, ignoreCase⟩ =
          (stored mapper.converter low declared).refusal?.or
            (stored mapper.converter high declared).refusal? := by
        change List.findSome? _ [_, _] = _
        rw [List.findSome?_cons, List.findSome?_singleton]
        cases (stored mapper.converter low declared).refusal? <;> rfl
      rw [operands]
      exact refuses_bind (refuses_bound mapper.converter _ low declared) fun _ =>
        refuses_map (refuses_bound mapper.converter _ high declared) _
  | contains value =>
      -- The dialect is asked before the operand is converted.
      rw [refusal?]
      simp only [mapPredicate, PredicateTest.isContainment, Bool.true_and]
      cases mapper.dialect.comparesArrays with
      | true =>
          change Refuses _ (List.findSome? _ [_])
          rw [List.findSome?_singleton]
          exact refuses_convert ⟨_, .unknown⟩ _ _
      | false => exact refuses_throw _
  | compare comparison value =>
      have operands : mapper.refusal? ⟨property, .compare comparison value, ignoreCase⟩ =
          (stored mapper.converter value _).refusal? := List.findSome?_singleton
      rw [operands]
      exact refuses_map (refuses_bound mapper.converter _ value _) _
  | _ => exact refuses_pure _

/-- The mapping of a range whose bounds are read from its operands as one value. There must be two. -/
def mapBounds (mapper : Mapper) (predicate : Predicate) (negated : Bool) : Allocating Mapped :=
  match predicate.test.operand.flatten with
  | [low, high] => mapper.mapPredicate { predicate with test := .between negated low high }
  | bounds => throw (.bindingArity predicate.property 2 bounds.length)

/-- A range has two bounds, so it is mapped as if they were counted. -/
theorem mapPredicate_between {predicate : Predicate} {negated : Bool} {low high : Value}
    (asked : predicate.test = .between negated low high) :
    mapper.mapPredicate predicate = mapper.mapBounds predicate negated := by
  obtain ⟨property, test, ignoreCase⟩ := predicate
  cases asked
  rfl

/-- What is wrong with an operand is what the converter says of it. -/
theorem reports_of_operand {predicate : Predicate} {operand : Operand} {error : Error}
    (among : operand ∈ mapper.operands predicate) (rejected : operand.refusal? = some error) :
    mapper.converter.Reports error := by
  have fails := Operand.converted_of_refusal? rejected
  obtain ⟨property, test, ignoreCase⟩ := predicate
  cases test with
  | isIn negated values =>
      obtain ⟨value, _, rfl⟩ := List.mem_map.mp among
      exact ⟨_, _, .inl fails⟩
  | between negated low high =>
      rcases List.mem_pair.mp among with rfl | rfl <;> exact ⟨_, _, .inl fails⟩
  | contains value =>
      obtain rfl := List.mem_singleton.mp among
      exact ⟨_, _, .inr fails⟩
  | compare comparison value =>
      obtain rfl := List.mem_singleton.mp among
      exact ⟨_, _, .inl fails⟩
  | _ => cases among

theorem refusal?_cases {predicate : Predicate} {error : Error}
    (refused : mapper.refusal? predicate = some error) :
    error = .unsupportedContainment mapper.dialect ∨ mapper.converter.Reports error := by
  rw [refusal?] at refused
  split at refused
  · exact .inl (Option.some.inj refused).symm
  · obtain ⟨operand, among, rejected⟩ := List.exists_of_findSome?_eq_some refused
    exact .inr (reports_of_operand among rejected)

end Mapper

end BindPlan
