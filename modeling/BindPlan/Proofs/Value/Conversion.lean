import BindPlan.Proofs.Outcome
import BindPlan.Value.Conversion

namespace BindPlan

section Sequence

variable {A B C : Type}

theorem findSome?_flatMap {items : List A} {parts : A → List B} {report : B → Option C} :
    (items.flatMap parts).findSome? report = items.findSome? fun item => (parts item).findSome? report := by
  induction items with
  | nil => rfl
  | cons item rest inductionHypothesis =>
      rw [List.flatMap_cons, List.findSome?_append, List.findSome?_cons, inductionHypothesis]
      cases (parts item).findSome? report <;> rfl

end Sequence

namespace StorageType

/-- The places at which a value is converted, each with the type that is declared there. Lists and arrays
are walked through as long as an array type is declared. -/
def places : StorageType → Value → List (StorageType × Value)
  | .array element, .list items => items.flatMap element.places
  | .array element, .array items => items.flatMap element.places
  | declared, value => [(declared, value)]

/-- The error of a place: an integer other than zero and one where a truth value is declared. -/
def misfit? : StorageType × Value → Option Error
  | (.bool, .int integer) =>
      if integer = 0 ∨ integer = 1 then none else some (.conversion (.notBoolean integer))
  | _ => none

/-- A misfit is a fault of conversion. -/
theorem exists_of_misfit? {place : StorageType × Value} {error : Error}
    (misfits : misfit? place = some error) : ∃ fault, error = .conversion fault := by
  rw [misfit?.eq_def] at misfits
  split at misfits
  · split at misfits <;> cases misfits
    exact ⟨_, rfl⟩
  · cases misfits

end StorageType

namespace Converter

open StorageType

/-- Some value is rejected with the error. -/
def Reports (converter : Converter) (error : Error) : Prop :=
  ∃ value type, converter.toStorable value type = .error error ∨
    converter.toArray value type = .error error

/-- The converter keeps to the one kind of error that is meant for values it rejects. -/
def RejectsByConversion (converter : Converter) : Prop :=
  ∀ error, converter.Reports error → ∃ fault, error = .conversion fault

section Rejection

variable {converter : Converter} (rejects : converter.RejectsByConversion)

include rejects

theorem RejectsByConversion.not_reports_bindingArity (name : String) (expected actual : Nat) :
    ¬ converter.Reports (.bindingArity name expected actual) := by
  intro reports
  obtain ⟨fault, same⟩ := rejects _ reports
  cases same

end Rejection

/-- The value is not walked through: it is a place of its own. -/
def Whole (declared : StorageType) (value : Value) : Prop :=
  ∀ element items, declared = .array element → value ≠ .list items ∧ value ≠ .array items

/-- The conversion walks as the places say. -/
@[elab_as_elim]
theorem walk_induction {motive : StorageType → Value → Prop}
    (list : ∀ element items, (∀ item, motive element item) → motive (.array element) (.list items))
    (array : ∀ element items, (∀ item, motive element item) → motive (.array element) (.array items))
    (whole : ∀ declared value, Whole declared value → motive declared value)
    (declared : StorageType) (value : Value) : motive declared value := by
  induction declared generalizing value with
  | array element inductionHypothesis =>
      cases value with
      | list items => exact list element items inductionHypothesis
      | array items => exact array element items inductionHypothesis
      | _ =>
          apply whole
          intro _ _ _
          exact ⟨nofun, nofun⟩
  | _ =>
      apply whole
      intro _ _ array
      cases array

theorem places_of_whole {declared : StorageType} {value : Value} (whole : Whole declared value) :
    declared.places value = [(declared, value)] :=
  places.eq_3 declared value (fun element items array => (whole element items array).1)
    fun element items array => (whole element items array).2

theorem storable_of_whole {declared : StorageType} {value : Value} (whole : Whole declared value) :
    storable declared value = widen declared value :=
  storable.eq_3 declared value (fun element items array => (whole element items array).1)
    fun element items array => (whole element items array).2

theorem storable_list (element : StorageType) (items : List Value) :
    storable (.array element) (.list items) = Value.array <$> items.mapM (storable element) :=
  bind_pure_comp _ _

theorem storable_array (element : StorageType) (items : List Value) :
    storable (.array element) (.array items) = Value.array <$> items.mapM (storable element) :=
  bind_pure_comp _ _

/-- Nothing is left to be widened in what was widened. -/
theorem storable_widened {declared : StorageType} {value stored : Value} (whole : Whole declared value)
    (widened : widen declared value = .ok stored) : storable declared stored = .ok stored := by
  have alone := storable_of_whole whole
  revert widened alone
  fun_cases widen declared value with
  | case6 integer zero one => simp
  | case8 declared value =>
      rintro ⟨⟩
      exact id
  | _ =>
      rintro ⟨⟩ _
      rfl

theorem widen_eq_error_iff {declared : StorageType} {value : Value} {error : Error} :
    widen declared value = .error error ↔ misfit? (declared, value) = some error := by
  fun_cases widen declared value with
  | case6 integer zero one => simp [misfit?, zero, one]
  | case8 _ _ _ _ _ fits _ =>
      have accepted : misfit? (declared, value) = none := by
        rw [misfit?]
        rintro integer ⟨⟩
        exact fits integer rfl rfl
      simp [accepted]
  | _ => simp [misfit?]

theorem storable_eq_error_iff {declared : StorageType} {value : Value} {error : Error} :
    storable declared value = .error error ↔ (declared.places value).findSome? misfit? = some error := by
  induction declared, value using walk_induction generalizing error with
  | list element items each =>
      rw [storable_list, map_eq_error, places, findSome?_flatMap]
      exact mapM_eq_error_iff_first (each _)
  | array element items each =>
      rw [storable_array, map_eq_error, places, findSome?_flatMap]
      exact mapM_eq_error_iff_first (each _)
  | whole declared value whole =>
      rw [storable_of_whole whole, places_of_whole whole, List.findSome?_singleton]
      exact widen_eq_error_iff

theorem storable_stable {declared : StorageType} {value stored : Value}
    (converted : storable declared value = .ok stored) : storable declared stored = .ok stored := by
  induction declared, value using walk_induction generalizing stored with
  | list element items each =>
      rw [storable_list, map_eq_ok] at converted
      obtain ⟨results, acted, rfl⟩ := converted
      rw [storable_array, map_eq_ok]
      exact ⟨results, mapM_eq_ok_of_stable (each _) acted, rfl⟩
  | array element items each =>
      rw [storable_array, map_eq_ok] at converted
      obtain ⟨results, acted, rfl⟩ := converted
      rw [storable_array, map_eq_ok]
      exact ⟨results, mapM_eq_ok_of_stable (each _) acted, rfl⟩
  | whole declared value whole =>
      exact storable_widened whole ((storable_of_whole whole).symm.trans converted)

/-- A value becomes an array as the array of its items is stored. -/
theorem toArray_eq (value : Value) (element : StorageType) :
    standard.toArray value element = storable (.array element) (.array value.items) := rfl

theorem toArray_stable {value stored : Value} {element : StorageType}
    (converted : standard.toArray value element = .ok stored) :
    standard.toArray stored element = .ok stored := by
  obtain ⟨results, acted, rfl⟩ := map_eq_ok.mp ((bind_pure_comp _ _).symm.trans converted)
  have kept := mapM_eq_ok_of_stable storable_stable acted
  exact (bind_pure_comp _ _).trans (map_eq_ok.mpr ⟨results, kept, rfl⟩)

theorem standard_rejectsByConversion : standard.RejectsByConversion := by
  have walked {declared : StorageType} {value : Value} {error : Error}
      (fails : storable declared value = .error error) : ∃ fault, error = .conversion fault := by
    obtain ⟨place, _, misfits⟩ := List.exists_of_findSome?_eq_some (storable_eq_error_iff.mp fails)
    exact exists_of_misfit? misfits
  rintro error ⟨value, type, fails | fails⟩
  · exact walked fails
  · rw [toArray_eq] at fails
    exact walked fails

/-- The standard conversion leaves alone what it has converted, and so does its conversion into arrays. It
fails only on integers that stand for no truth value, with the first one that it comes to. -/
theorem standard_stable (value : Value) (declared : StorageType) :
    (∀ stored, standard.toStorable value declared = .ok stored →
      standard.toStorable stored declared = .ok stored) ∧
    (∀ stored, standard.toArray value declared = .ok stored →
      standard.toArray stored declared = .ok stored) ∧
    ∀ error, standard.toStorable value declared = .error error ↔
      (declared.places value).findSome? misfit? = some error :=
  ⟨fun _ => storable_stable, fun _ => toArray_stable, fun _ => storable_eq_error_iff⟩

/-- A tuple is not walked through, and the first of two integers is reported. -/
theorem standard_stable_nested :
    standard.toStorable (.list [.tuple [.int 7], .array [.int 1]]) (.array (.array .bool)) =
        .ok (.array [.tuple [.int 7], .array [.bool true]]) ∧
      standard.toStorable (.array [.tuple [.int 7], .array [.bool true]]) (.array (.array .bool)) =
        .ok (.array [.tuple [.int 7], .array [.bool true]]) ∧
      standard.toStorable (.list [.array [.int 1, .int 7], .list [.int 9]]) (.array (.array .bool)) =
        .error (.conversion (.notBoolean 7)) :=
  ⟨rfl, (standard_stable (.list [.tuple [.int 7], .array [.int 1]]) _).1 _ rfl,
    ((standard_stable _ _).2.2 _).mpr rfl⟩

end Converter

end BindPlan
