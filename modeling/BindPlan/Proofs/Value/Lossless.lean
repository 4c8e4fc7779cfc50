import BindPlan.Proofs.Number.Binary64
import BindPlan.Proofs.Text.Utf8
import BindPlan.Proofs.Value.Conversion
import Mathlib.Data.List.Forall2
import Std.Data.String.ToInt

namespace BindPlan

section Rows

variable {A B C : Type}

/-- Rows with the same keys and the same results are the same, if their items are. -/
theorem eq_of_forall₂ {relation : A → B → Prop} {key : A → C} {items others : List A} {results : List B}
    (injective : ∀ item ∈ items, ∀ other ∈ others, ∀ result, key item = key other →
      relation item result → relation other result → item = other)
    (first : List.Forall₂ relation items results) (second : List.Forall₂ relation others results)
    (keys : items.map key = others.map key) : items = others := by
  induction first generalizing others with
  | nil =>
      cases second
      rfl
  | cons head _ inductionHypothesis =>
      obtain _ | ⟨otherHead, otherTail⟩ := second
      obtain ⟨sameKey, sameKeys⟩ := List.cons_eq_cons.mp keys
      have same := injective _ List.mem_cons_self _ List.mem_cons_self _ sameKey head otherHead
      have rest := inductionHypothesis (fun item among other amid => injective item
        (List.mem_cons_of_mem _ among) other (List.mem_cons_of_mem _ amid)) otherTail sameKeys
      rw [same, rest]

end Rows

namespace Value

mutual

/-- The structure of a value: its variants at all positions and the lengths of its lists, without the
contents. -/
def frame : Value → Value
  | null => null
  | bool _ => bool false
  | int _ => int 0
  | float _ => float ⟨0⟩
  | text _ => text ""
  | bytes _ => bytes []
  | array items => array (frames items)
  | list items => list (frames items)
  | tuple items => tuple (frames items)

def frames : List Value → List Value
  | [] => []
  | item :: rest => frame item :: frames rest

end

theorem frames_eq_map (items : List Value) : frames items = items.map frame := by
  induction items with
  | nil => rfl
  | cons item rest inductionHypothesis => rw [frames, List.map_cons, inductionHypothesis]

theorem list_of_frame {items : List Value} {other : Value}
    (alike : (Value.list items).frame = other.frame) :
    ∃ others, other = .list others ∧ items.map frame = others.map frame := by
  cases other with
  | list others =>
      rw [frame, frame, Value.list.injEq, frames_eq_map, frames_eq_map] at alike
      exact ⟨others, rfl, alike⟩
  | _ => cases alike

theorem array_of_frame {items : List Value} {other : Value}
    (alike : (Value.array items).frame = other.frame) :
    ∃ others, other = .array others ∧ items.map frame = others.map frame := by
  cases other with
  | array others =>
      rw [frame, frame, Value.array.injEq, frames_eq_map, frames_eq_map] at alike
      exact ⟨others, rfl, alike⟩
  | _ => cases alike

/-- The value can be read back from the stored one. -/
inductive Keeps : Value → Value → Prop
  | same (value : Value) : Keeps value value
  | float {integer : Int64} {number : Binary64} (holds : number.Holds integer.toInt) :
      Keeps (.int integer) (.float number)
  | decimal {integer : Int64} {content : String} (reads : content.toInt? = some integer.toInt) :
      Keeps (.int integer) (.text content)
  | integer (truth : Bool) : Keeps (.bool truth) (.int (if truth then 1 else 0))
  | truth (truth : Bool) : Keeps (.int (if truth then 1 else 0)) (.bool truth)
  | utf8 {content : String} {encoded : List UInt8}
      (decodes : String.fromUTF8? encoded.toByteArray = some content) :
      Keeps (.text content) (.bytes encoded)

/-- Nothing but the structure of a value has to be known to read it back. -/
theorem Keeps.injective {value other stored : Value} (first : Keeps value stored)
    (second : Keeps other stored) (alike : value.frame = other.frame) : value = other := by
  -- Where different forms are stored alike, the structures differ.
  cases first with
  | same =>
      cases second with
      | same => rfl
      | _ => cases alike
  | float holds =>
      cases second with
      | same => cases alike
      | float other => rw [Int64.toInt_inj.mp (holds.unique other)]
  | decimal reads =>
      cases second with
      | same => cases alike
      | decimal other => rw [Int64.toInt_inj.mp (Option.some.inj (reads.symm.trans other))]
  | integer truth =>
      generalize widened : (if truth then 1 else 0 : Int64) = integer at second
      cases second with
      | same => cases alike
      | integer other => cases truth <;> cases other <;> trivial
  | truth truth =>
      cases second with
      | same => cases alike
      | truth => rfl
  | utf8 decodes =>
      cases second with
      | same => cases alike
      | utf8 other => rw [Option.some.inj (decodes.symm.trans other)]

end Value

namespace StorageType

/-- A place whose value has a form of the declared type. A number holds integers of 53 significant bits. -/
def Representable : StorageType × Value → Prop
  | (.float, .int integer) => Binary64.Significant integer.toInt
  | _ => True

end StorageType

namespace Converter

open StorageType Value

/-- Values can be read back from what they are widened to, but for the integers that are rounded. -/
theorem widen_keeps_iff {declared : StorageType} {value stored : Value}
    (widened : widen declared value = .ok stored) :
    Keeps value stored ↔ Representable (declared, value) := by
  revert widened
  fun_cases widen declared value with
  | case1 integer =>
      rintro ⟨⟩
      have machine : integer.toInt.natAbs < twoTo 64 := by
        have low := integer.le_toInt
        have high := integer.toInt_lt
        have size : twoTo 64 = 18446744073709551616 := rfl
        omega
      rw [Representable, ← Binary64.ofInt_holds_iff machine]
      constructor
      · intro keeps
        cases keeps with
        | float holds => exact holds
      · exact .float
  | case2 integer =>
      rintro ⟨⟩
      exact iff_of_true (.decimal (Int.toInt?_repr _)) trivial
  | case3 truth =>
      rintro ⟨⟩
      exact iff_of_true (.integer truth) trivial
  | case4 =>
      rintro ⟨⟩
      exact iff_of_true (.truth false) trivial
  | case5 =>
      rintro ⟨⟩
      exact iff_of_true (.truth true) trivial
  | case6 =>
      intro widened
      cases widened
  | case7 content =>
      rintro ⟨⟩
      rw [Text.toList_toUTF8]
      exact iff_of_true (.utf8 (Text.fromUTF8?_utf8 content)) trivial
  | case8 _ _ notNumber =>
      rintro ⟨⟩
      have representable : Representable (declared, value) := by
        rw [Representable]
        · trivial
        · rintro integer ⟨⟩
          exact notNumber integer rfl rfl
      exact iff_of_true (.same value) representable

theorem whole_of_widened {declared : StorageType} {value stored : Value} (whole : Whole declared value)
    (widened : widen declared value = .ok stored) : Whole declared stored := by
  cases declared with
  | array element =>
      have passed : widen (.array element) value = .ok value := by
        cases value <;> rfl
      obtain rfl := Except.ok.inj (passed.symm.trans widened)
      exact whole
  | _ =>
      intro _ _ array
      cases array

/-- The relation between a place and what is stored there. -/
def KeepsPlace (place stored : StorageType × Value) : Prop :=
  place.1 = stored.1 ∧ (Keeps place.2 stored.2 ↔ Representable place)

/-- Each place is stored under its type and, if it can be, as something that it can be read back from. -/
theorem places_stored {declared : StorageType} {value stored : Value}
    (converted : storable declared value = .ok stored) :
    List.Forall₂ KeepsPlace (declared.places value) (declared.places stored) := by
  induction declared, value using walk_induction generalizing stored with
  | list element items each =>
      rw [storable_list, map_eq_ok] at converted
      obtain ⟨results, acted, rfl⟩ := converted
      exact List.rel_flatMap (mapM_eq_ok_iff.mp acted) fun item result => each item
  | array element items each =>
      rw [storable_array, map_eq_ok] at converted
      obtain ⟨results, acted, rfl⟩ := converted
      exact List.rel_flatMap (mapM_eq_ok_iff.mp acted) fun item result => each item
  | whole declared value whole =>
      rw [storable_of_whole whole] at converted
      rw [places_of_whole whole, places_of_whole (whole_of_widened whole converted)]
      exact .cons ⟨rfl, widen_keeps_iff converted⟩ .nil

theorem whole_of_frame {declared : StorageType} {value other : Value} (whole : Whole declared value)
    (alike : value.frame = other.frame) : Whole declared other := by
  intro element items array
  constructor
  · rintro rfl
    obtain ⟨others, rfl, _⟩ := list_of_frame alike.symm
    exact (whole element others array).1 rfl
  · rintro rfl
    obtain ⟨others, rfl, _⟩ := array_of_frame alike.symm
    exact (whole element others array).2 rfl

section Injectivity

variable {element declared : StorageType}

/-- Rows of values are told apart by what is stored for them as their items are. -/
theorem row_injective {items others results : List Value}
    (each : ∀ item {other stored : Value}, item.frame = other.frame →
      (∀ place ∈ element.places item, Representable place) →
      (∀ place ∈ element.places other, Representable place) →
      storable element item = .ok stored → storable element other = .ok stored → item = other)
    (frames : items.map frame = others.map frame)
    (representable : ∀ place ∈ items.flatMap element.places, Representable place)
    (otherRepresentable : ∀ place ∈ others.flatMap element.places, Representable place)
    (acted : items.mapM (storable element) = .ok results)
    (otherActed : others.mapM (storable element) = .ok results) : items = others := by
  refine eq_of_forall₂ ?_ (mapM_eq_ok_iff.mp acted) (mapM_eq_ok_iff.mp otherActed) frames
  intro item member other otherMember result alike converted otherConverted
  apply each item alike _ _ converted otherConverted
  · intro place within
    exact representable place (List.mem_flatMap_of_mem member within)
  · intro place within
    exact otherRepresentable place (List.mem_flatMap_of_mem otherMember within)

/-- Values of one structure are the same if the same is stored for them. -/
theorem storable_injective {value other stored : Value} (alike : value.frame = other.frame)
    (representable : ∀ place ∈ declared.places value, Representable place)
    (otherRepresentable : ∀ place ∈ declared.places other, Representable place)
    (converted : storable declared value = .ok stored)
    (otherConverted : storable declared other = .ok stored) : value = other := by
  induction declared, value using walk_induction generalizing other stored with
  | list element items each =>
      obtain ⟨others, rfl, frames⟩ := list_of_frame alike
      rw [storable_list, map_eq_ok] at converted otherConverted
      obtain ⟨results, acted, rfl⟩ := converted
      obtain ⟨_, otherActed, ⟨⟩⟩ := otherConverted
      rw [row_injective each frames representable otherRepresentable acted otherActed]
  | array element items each =>
      obtain ⟨others, rfl, frames⟩ := array_of_frame alike
      rw [storable_array, map_eq_ok] at converted otherConverted
      obtain ⟨results, acted, rfl⟩ := converted
      obtain ⟨_, otherActed, ⟨⟩⟩ := otherConverted
      rw [row_injective each frames representable otherRepresentable acted otherActed]
  | whole declared value whole =>
      have otherWhole := whole_of_frame whole alike
      rw [places_of_whole whole] at representable
      rw [places_of_whole otherWhole] at otherRepresentable
      have keeps := (widen_keeps_iff ((storable_of_whole whole).symm.trans converted)).mpr
        (representable _ List.mem_cons_self)
      have otherKeeps := (widen_keeps_iff ((storable_of_whole otherWhole).symm.trans otherConverted)).mpr
        (otherRepresentable _ List.mem_cons_self)
      exact keeps.injective otherKeeps alike

end Injectivity

/-- The standard conversion keeps what a value holds at each of its places, unless it has to round an
integer there. Values of one structure without such integers are the same if the same is stored for
them. -/
theorem standard_lossless (declared : StorageType) :
    (∀ value stored, standard.toStorable value declared = .ok stored →
      List.Forall₂ KeepsPlace (declared.places value) (declared.places stored)) ∧
    ∀ value other stored, value.frame = other.frame →
      (∀ place ∈ declared.places value, Representable place) →
      (∀ place ∈ declared.places other, Representable place) →
      standard.toStorable value declared = .ok stored → standard.toStorable other declared = .ok stored →
      value = other :=
  ⟨fun _ _ => places_stored, fun _ _ _ => storable_injective⟩

/-- Nothing that is stored for three is stored for four, and the least integer is kept in an array. -/
theorem standard_lossless_float :
    (∀ stored, standard.toStorable (.int 3) .float = .ok stored →
      standard.toStorable (.int 4) .float ≠ .ok stored) ∧
    List.Forall₂ KeepsPlace [(.float, .int (-9223372036854775808))]
      [(.float, .float (.ofInt (-9223372036854775808)))] := by
  constructor
  · intro stored converted otherConverted
    have three : ∀ place ∈ StorageType.float.places (.int 3), Representable place := by
      rintro _ (_ | ⟨_, ⟨⟩⟩)
      exact ⟨3, 0, by decide, rfl⟩
    have four : ∀ place ∈ StorageType.float.places (.int 4), Representable place := by
      rintro _ (_ | ⟨_, ⟨⟩⟩)
      exact ⟨4, 0, by decide, rfl⟩
    cases (standard_lossless .float).2 (.int 3) (.int 4) stored rfl three four converted otherConverted
  · exact (standard_lossless (.array .float)).1 (.list [.int (-9223372036854775808)])
      (.array [.float (.ofInt (-9223372036854775808))]) rfl

/-- Two integers of which one does not fit into a significand are stored as one number. -/
theorem standard_not_lossless :
    ∃ declared value other stored, value.frame = other.frame ∧
      standard.toStorable value declared = .ok stored ∧ standard.toStorable other declared = .ok stored ∧
      value ≠ other := by
  have rounded : Binary64.ofInt 9007199254740993 = Binary64.ofInt 9007199254740992 := by decide +kernel
  refine ⟨.float, .int 9007199254740992, .int 9007199254740993,
    .float (.ofInt 9007199254740992), rfl, rfl, ?_, ?_⟩
  · exact congrArg (fun number => Except.ok (Value.float number)) rounded
  · intro same
    cases same

end Converter

end BindPlan
