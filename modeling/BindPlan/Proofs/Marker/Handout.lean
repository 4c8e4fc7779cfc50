import BindPlan.Marker.Allocator
import Mathlib.Data.List.Nodup
import Mathlib.Data.Nat.Find
import Mathlib.Order.Basic

namespace BindPlan

namespace Allocator

/-- Different numbers have different decimal digits. -/
theorem toDigits_injective : Function.Injective (Nat.toDigits 10) := by
  intro first second same
  have numbers := congrArg (fun numeral => Nat.ofDigitChars 10 numeral 0) same
  simpa only [Nat.ofDigitChars_ten_toDigits] using numbers

/-- Only the suffix stands behind the last underscore of a name with a suffix. -/
theorem suffixed_injective (base : List Char) (maxLength : Nat) :
    Function.Injective (suffixed base maxLength) := by
  have behind (kept : List Char) (suffix : Nat) :
      ((kept ++ suffixText suffix).reverse.takeWhile (· != '_')).reverse =
        Nat.toDigits 10 suffix := by
    have digits : ∀ char ∈ (Nat.toDigits 10 suffix).reverse, (char != '_') = true := by
      intro char member
      rw [List.mem_reverse] at member
      rw [bne_iff_ne]
      rintro rfl
      exact Nat.underscore_not_in_toDigits member
    rw [suffixText, List.reverse_append, List.reverse_cons, List.append_assoc,
      List.takeWhile_append_of_pos digits]
    simp
  intro first second same
  have texts := congrArg String.toList same
  simp only [suffixed, String.toList_ofList] at texts
  have numerals := congrArg (fun text => (text.reverse.takeWhile (· != '_')).reverse) texts
  simp only [behind] at numerals
  exact toDigits_injective numerals

/-- Among one variant more than there are names in use, one is free. -/
theorem exists_free (used : List String) (base : List Char) (maxLength suffix : Nat) :
    ∃ step, step ≤ used.length ∧ suffixed base maxLength (suffix + step) ∉ used := by
  by_contra all
  let variants := (List.range (used.length + 1)).map fun step =>
    suffixed base maxLength (suffix + step)
  have distinct : variants.Nodup := by
    apply List.Nodup.map _ List.nodup_range
    intro first second same
    exact Nat.add_left_cancel (suffixed_injective base maxLength same)
  have taken : variants ⊆ used := by
    intro variant member
    obtain ⟨step, inRange, rfl⟩ := List.mem_map.mp member
    by_contra free
    exact all ⟨step, Nat.le_of_lt_succ (List.mem_range.mp inRange), free⟩
  have count := distinct.length_le_of_subset taken
  simp only [variants, List.length_map, List.length_range] at count
  omega

/-- The number of variants in use from a suffix on, up to the first free one. -/
def distance (used : List String) (base : List Char) (maxLength suffix : Nat) : Nat :=
  Nat.find (exists_free used base maxLength suffix)

theorem distance_spec (used : List String) (base : List Char) (maxLength suffix : Nat) :
    distance used base maxLength suffix ≤ used.length ∧
      suffixed base maxLength (suffix + distance used base maxLength suffix) ∉ used :=
  Nat.find_spec (exists_free used base maxLength suffix)

section Distance

variable {used : List String} {base : List Char} {maxLength suffix step : Nat}

theorem distance_le (near : step ≤ used.length)
    (free : suffixed base maxLength (suffix + step) ∉ used) :
    distance used base maxLength suffix ≤ step :=
  Nat.find_min' (exists_free used base maxLength suffix) ⟨near, free⟩

theorem mem_of_lt_distance (before : step < distance used base maxLength suffix) :
    suffixed base maxLength (suffix + step) ∈ used := by
  by_contra free
  have near := (distance_spec used base maxLength suffix).1
  exact Nat.not_le_of_lt before (distance_le (by omega) free)

/-- A variant in use is one of those to pass over. -/
theorem distance_of_taken (taken : suffixed base maxLength suffix ∈ used) :
    distance used base maxLength suffix = distance used base maxLength (suffix + 1) + 1 := by
  have shift (step : Nat) : suffix + 1 + step = suffix + (step + 1) := by omega
  obtain ⟨near, free⟩ := distance_spec used base maxLength suffix
  obtain ⟨_, freeBehind⟩ := distance_spec used base maxLength (suffix + 1)
  cases steps : distance used base maxLength suffix with
  | zero =>
      rw [steps] at free
      exact absurd taken free
  | succ step =>
      -- Each of the two free variants bounds the other distance.
      rw [steps] at near free
      have behind : distance used base maxLength (suffix + 1) ≤ step :=
        distance_le (Nat.le_of_succ_le near) (by rwa [shift])
      rw [shift] at freeBehind
      have before := distance_le (by omega) freeBehind
      omega

/-- The first free variant of a base in use becomes the name. -/
theorem uniqueName_of_mem (inUse : String.ofList base ∈ used) (maxLength suffix : Nat) :
    uniqueName used base maxLength suffix =
      suffixed base maxLength (suffix + distance used base maxLength suffix) := by
  obtain ⟨near, free⟩ := distance_spec used base maxLength suffix
  have taken : ∀ earlier < distance used base maxLength suffix,
      suffixed base maxLength (suffix + earlier) ∈ used := fun _ => mem_of_lt_distance
  generalize distance used base maxLength suffix = step at near free taken ⊢
  have search : ((List.range (used.length + 1)).findSome? fun step =>
      let variant := suffixed base maxLength (suffix + step)
      if variant ∈ used then none else some variant) =
        some (suffixed base maxLength (suffix + step)) := by
    apply List.findSome?_eq_some_iff.mpr
    refine ⟨List.range step, step, List.range' (step + 1) (used.length - step), ?_, if_neg free, ?_⟩
    · have count : used.length + 1 = step + (used.length - step + 1) := by omega
      rw [List.range_eq_range', List.range_eq_range', ← List.range'_succ, count,
        ← List.range'_append_1, Nat.zero_add]
    · intro earlier member
      exact if_pos (taken earlier (List.mem_range.mp member))
  rw [uniqueName, if_pos inUse, search, Option.getD_some]

end Distance

/-- The name is the base, or the first free one of its variants. -/
theorem uniqueName_cases (used : List String) (base : List Char) (maxLength suffix : Nat) :
    (uniqueName used base maxLength suffix = String.ofList base ∧ String.ofList base ∉ used) ∨
      ∃ step, step ≤ used.length ∧ suffixed base maxLength (suffix + step) ∉ used ∧
        uniqueName used base maxLength suffix = suffixed base maxLength (suffix + step) := by
  by_cases inUse : String.ofList base ∈ used
  · obtain ⟨near, free⟩ := distance_spec used base maxLength suffix
    exact .inr ⟨_, near, free, uniqueName_of_mem inUse maxLength suffix⟩
  · exact .inl ⟨if_neg inUse, inUse⟩

/-- The name that is chosen is not in use. -/
theorem uniqueName_not_mem (used : List String) (base : List Char) (maxLength suffix : Nat) :
    uniqueName used base maxLength suffix ∉ used := by
  rcases uniqueName_cases used base maxLength suffix with ⟨same, free⟩ | ⟨step, _, free, same⟩
  · rwa [same]
  · rwa [same]

/-- The target belongs to a marker that may have been handed out. -/
def Taken (allocator : Allocator) : Target → Prop
  | .index position => position < allocator.allocated
  | .name name => name ∈ allocator.used

theorem not_taken_allocate (allocator : Allocator) (hint : Option String) :
    ¬ allocator.Taken (allocator.allocate hint).1.target := by
  unfold allocate
  split
  · exact Nat.lt_irrefl _
  · exact Nat.lt_irrefl _
  · exact uniqueName_not_mem _ _ _ _

theorem taken_allocate (allocator : Allocator) (hint : Option String) :
    (allocator.allocate hint).2.Taken (allocator.allocate hint).1.target := by
  unfold allocate
  split
  · exact Nat.lt_succ_self _
  · exact Nat.lt_succ_self _
  · exact List.mem_cons_self

theorem Taken.allocate {allocator : Allocator} {target : Target}
    (taken : allocator.Taken target) (hint : Option String) :
    (allocator.allocate hint).2.Taken target := by
  cases target with
  | index position =>
      change position < (allocator.allocate hint).2.allocated
      rw [allocate_allocated]
      exact Nat.lt_succ_of_lt taken
  | name name =>
      unfold Allocator.allocate
      split
      · exact taken
      · exact taken
      · exact List.mem_cons_of_mem _ taken

/-- The allocator hands out the markers in a row, whatever the hints are. -/
inductive Hands : Allocator → List Marker → Allocator → Prop where
  | none (allocator : Allocator) : Hands allocator [] allocator
  | next {start finish : Allocator} {markers : List Marker} (hint : Option String)
      (rest : Hands (start.allocate hint).2 markers finish) :
      Hands start ((start.allocate hint).1 :: markers) finish

namespace Hands

variable {start between finish : Allocator} {markers first second : List Marker}

theorem one (allocator : Allocator) (hint : Option String) :
    Hands allocator [(allocator.allocate hint).1] (allocator.allocate hint).2 :=
  .next hint (.none _)

theorem append (before : Hands start first between) (behind : Hands between second finish) :
    Hands start (first ++ second) finish := by
  induction before with
  | none => exact behind
  | next hint rest inductionHypothesis => exact .next hint (inductionHypothesis behind)

theorem style (hands : Hands start markers finish) : finish.style = start.style := by
  induction hands with
  | none => rfl
  | next hint rest inductionHypothesis => rw [inductionHypothesis, allocate_style]

theorem allocated (hands : Hands start markers finish) :
    finish.allocated = start.allocated + markers.length := by
  induction hands with
  | none => rfl
  | next hint rest inductionHypothesis =>
      rw [inductionHypothesis, allocate_allocated, List.length_cons]
      omega

/-- The ordinals count up from the number of markers handed out before. -/
theorem ordinals (hands : Hands start markers finish) :
    markers.map Marker.ordinal = List.range' start.allocated markers.length := by
  induction hands with
  | none => rfl
  | next hint rest inductionHypothesis =>
      rw [List.map_cons, inductionHypothesis, allocate_ordinal, allocate_allocated,
        List.length_cons, List.range'_succ]

/-- No marker has a target that was taken before, or that another one of them has. -/
theorem targets (hands : Hands start markers finish) :
    (markers.map Marker.target).Nodup ∧ ∀ marker ∈ markers, ¬ start.Taken marker.target := by
  induction hands with
  | none => simp
  | @next start finish markers hint rest inductionHypothesis =>
      obtain ⟨distinct, fresh⟩ := inductionHypothesis
      rw [List.map_cons, List.nodup_cons]
      refine ⟨⟨?_, distinct⟩, ?_⟩
      · intro member
        obtain ⟨marker, member, same⟩ := List.mem_map.mp member
        apply fresh marker member
        rw [same]
        exact start.taken_allocate hint
      · intro marker member taken
        rcases List.mem_cons.mp member with rfl | member
        · exact start.not_taken_allocate hint taken
        · exact fresh marker member (taken.allocate hint)

/-- A statement counts its markers from zero. -/
theorem ordinals_fresh {style : MarkerStyle} (hands : style.allocator.Hands markers finish) :
    markers.map Marker.ordinal = List.range markers.length := by
  rw [hands.ordinals]
  exact List.range_eq_range'.symm

/-- A style with one placeholder binds the markers by their positions. -/
theorem positional {placeholder : String} (hands : Hands start markers finish)
    (anonymous : start.style = .anonymous placeholder) :
    markers.map Marker.target = (List.range' start.allocated markers.length).map Target.index ∧
      ∀ marker ∈ markers, marker.placeholder = placeholder := by
  induction hands with
  | none => simp
  | @next start finish markers hint rest inductionHypothesis =>
      obtain ⟨targets, placeholders⟩ :=
        inductionHypothesis ((start.allocate_style hint).trans anonymous)
      have first : (start.allocate hint).1 = ⟨placeholder, .index start.allocated, start.allocated⟩ := by
        simp [allocate, anonymous]
      refine ⟨?_, ?_⟩
      · rw [List.map_cons, targets, allocate_allocated, List.length_cons, List.range'_succ,
          List.map_cons, first]
      · rw [List.forall_mem_cons]
        exact ⟨by rw [first], placeholders⟩

/-- A style with names binds the markers by distinct names. -/
theorem named {sign stem : String} {maxLength : Nat} (hands : Hands start markers finish)
    (named : start.style = .named sign stem maxLength) :
    ∃ names : List String, markers.map Marker.target = names.map Target.name ∧ names.Nodup := by
  have written : ∃ names : List String, markers.map Marker.target = names.map Target.name := by
    induction hands with
    | none => exact ⟨[], rfl⟩
    | @next start finish markers hint rest inductionHypothesis =>
        obtain ⟨names, same⟩ := inductionHypothesis ((start.allocate_style hint).trans named)
        have target : ∃ name, (start.allocate hint).1.target = .name name := by
          simp [allocate, named]
        obtain ⟨name, first⟩ := target
        exact ⟨name :: names, by rw [List.map_cons, List.map_cons, same, first]⟩
  obtain ⟨names, same⟩ := written
  have distinct := hands.targets.1
  rw [same] at distinct
  exact ⟨names, same, distinct.of_map⟩

end Hands

end Allocator

end BindPlan
