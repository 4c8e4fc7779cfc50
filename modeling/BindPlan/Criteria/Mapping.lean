import BindPlan.Bindings
import BindPlan.Condition.Basic
import BindPlan.Marker.Allocator
import BindPlan.Metadata
import BindPlan.Value.Conversion

/-!
Mapping of criteria to a condition and its bindings. A chain is read from its oldest clause: each
clause that holds a predicate joins the condition built so far by its own connective, and clauses
without a predicate are passed over.
-/

namespace BindPlan

/-- An action that hands out markers and may fail. Markers handed out before a failure stay so. -/
abbrev Allocating := ExceptT Error (StateM Allocator)

namespace Allocating

def nextFor (hint : String) : Allocating Marker :=
  modifyGet fun allocator => allocator.nextFor hint

/-- An outcome that hands out no marker. A converter's error is passed on as it is. -/
def ofConversion {A : Type} : Except Error A → Allocating A
  | .ok value => pure value
  | .error error => throw error

end Allocating

/-- A condition with the bindings of its markers. -/
structure Mapped where
  condition : Condition
  bindings : Bindings
deriving DecidableEq

namespace Mapped

/-- A condition without markers. -/
def ofCondition (condition : Condition) : Mapped := ⟨condition, []⟩

def join (connective : Connective) (first second : Mapped) : Mapped :=
  ⟨.join connective first.condition second.condition, first.bindings ++ second.bindings⟩

/-- What is built so far joined with what comes next. Either may be absent. -/
def join? (connective : Connective) : Option Mapped → Option Mapped → Option Mapped
  | none, next => next
  | built, none => built
  | some built, some next => some (built.join connective next)

def nested (mapped : Mapped) : Mapped := ⟨.nested mapped.condition, mapped.bindings⟩

end Mapped

/-- The mapping of criteria on one table in one dialect. -/
structure Mapper where
  dialect : Dialect
  converter : Converter
  metadata : Metadata
  table : Table

namespace Mapper

/-- The binding of a converted value to the next marker of a column. A null takes the declared
type. -/
def bind (converter : Converter) (column : String) (value : Value) (declared : StorageType) :
    Allocating Binding := do
  let stored ← Allocating.ofConversion (converter.toStorable value declared)
  let marker ← Allocating.nextFor column
  return ⟨marker, .ofValue declared stored⟩

/-- The declared type of a predicate's property, or the type of what it is tested against. -/
def declaredType (mapper : Mapper) (predicate : Predicate) : StorageType :=
  (mapper.metadata.type? predicate.property).getD predicate.test.operand.storageType

/-- Texts are compared without regard to case when the column or else the value is textual. -/
def isTextual (declared : StorageType) (value : Value) : Bool :=
  match declared, value with
  | .text, _ => true
  | .unknown, .text _ => true
  | _, _ => false

/-- The condition of a comparison of a column with a bound value. -/
def compared (comparison : Comparison) (column : Expression) (binding : Binding)
    (ignoreCase : Bool) : Mapped :=
  let value := Expression.marker binding.marker
  let condition :=
    if ignoreCase then Condition.compare comparison column.upper value.upper
    else Condition.compare comparison column value
  ⟨condition, [binding]⟩

/-- The condition of a predicate, its operands converted and bound in order. -/
def mapPredicate (mapper : Mapper) (predicate : Predicate) : Allocating Mapped := do
  let name := mapper.metadata.columnName predicate.property
  let declared := mapper.declaredType predicate
  let column := Expression.column (mapper.table.column name)
  match predicate.test with
  | .isNull => return .ofCondition (.test (.isNull column))
  | .isNotNull => return .ofCondition (.test (.isNotNull column))
  | .isTrue => return .ofCondition (.compare .eq column (.bool true))
  | .isFalse => return .ofCondition (.compare .eq column (.bool false))
  | .isIn negated [] => return .ofCondition (if negated then .alwaysTrue else .alwaysFalse)
  | .isIn negated values =>
      let bindings ← values.mapM fun value => bind mapper.converter name value declared.element
      let operands := bindings.map fun binding => Expression.marker binding.marker
      return ⟨.negateIf negated (.test (.isIn column operands)), bindings⟩
  | .between negated low high =>
      let low ← bind mapper.converter name low declared.element
      let high ← bind mapper.converter name high declared.element
      let test := Test.between column (.marker low.marker) (.marker high.marker)
      return ⟨.negateIf negated (.test test), [low, high]⟩
  | .contains value =>
      if mapper.dialect.comparesArrays then
        let stored ← Allocating.ofConversion (mapper.converter.toArray value declared.element)
        let marker ← Allocating.nextFor name
        return ⟨.test (.contains column (.marker marker)),
          [⟨marker, .ofValue .unknown stored⟩]⟩
      else throw (.unsupportedContainment mapper.dialect)
  | .compare comparison value =>
      let binding ← bind mapper.converter name value declared
      let ignoreCase := predicate.ignoreCase && isTextual declared value
      return compared comparison column binding ignoreCase

mutual

/-- The condition of one clause, if it holds a predicate. -/
def mapClause (mapper : Mapper) : Clause → Allocating (Option Mapped)
  | .blank => pure none
  | .predicate tested => some <$> mapper.mapPredicate tested
  | .group members => do
      let mapped ← mapMembers mapper none members
      return mapped.map Mapped.nested

/-- The condition of a chain, read from its oldest clause. -/
def mapChain (mapper : Mapper) : Criteria → Allocating (Option Mapped)
  | .start clause => mapClause mapper clause
  | .extend previous connective clause => do
      let built ← mapChain mapper previous
      let next ← mapClause mapper clause
      return Mapped.join? connective built next

/-- What is built so far joined by AND with the members of a group. -/
def mapMembers (mapper : Mapper) (built : Option Mapped) :
    List Criteria → Allocating (Option Mapped)
  | [] => pure built
  | member :: rest => do
      let next ← mapChain mapper member
      mapMembers mapper (Mapped.join? .and built next) rest

end

/-- The condition of criteria with its bindings. Criteria without a predicate have none. -/
def map (mapper : Mapper) (criteria : Criteria) : Allocating Mapped := do
  let some mapped ← mapper.mapChain criteria | throw .emptyCriteria
  return mapped

end Mapper

end BindPlan
