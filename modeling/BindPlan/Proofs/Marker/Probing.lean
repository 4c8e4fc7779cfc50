import BindPlan.Proofs.Marker.Naming
import Mathlib.Data.List.Basic

/-!
Names found by probing. Variants of a base in use are tried one after the other, without a bound, and a
hint and a base are cut by slices of their bytes, which exist only between characters. Such searches give
the names that an allocator hands out. The names in use are written in ASCII or are the stem with an
earlier ordinal, which is never the stem with the next one, so only a text of ASCII is cut. Variants with
different suffixes differ however little of the base is left, so one more of them than there are names in
use is enough.
-/

namespace BindPlan

namespace Allocator

/-- A name with the bytes at which the base was cut on the way to it, one for each variant tried. -/
structure Found where
  name : String
  cuts : List Nat
deriving DecidableEq, Repr

/-- The variant that is made of a slice is the variant of its suffix. In use, it is one less to pass over. -/
theorem distance_lt_of_slice? {used : List String} {base : List Char} {kept : String}
    {maxLength suffix : Nat}
    (slice : Text.slice? (String.ofList base) 0 (keptBytes base maxLength suffix) = some kept)
    (taken : kept ++ String.ofList (suffixText suffix) ∈ used) :
    distance used base maxLength (suffix + 1) < distance used base maxLength suffix := by
  have whole := Text.slice?_start (Text.isValid_of_slice? slice)
  rw [Option.some.inj (slice.symm.trans whole), ← String.ofList_append] at taken
  rw [distance_of_taken taken]
  exact Nat.lt_succ_self _

/-- Tries the variants of a base, whose suffixes count up, until one is free. There is no result if a
slice does not exist. -/
def probe (used : List String) (base : List Char) (maxLength suffix : Nat) : Option Found :=
  let cut := keptBytes base maxLength suffix
  match slice : Text.slice? (String.ofList base) 0 cut with
  | none => none
  | some kept =>
      let variant := kept ++ String.ofList (suffixText suffix)
      if taken : variant ∈ used then
        (probe used base maxLength (suffix + 1)).map fun found => ⟨found.name, cut :: found.cuts⟩
      else some ⟨variant, [cut]⟩
termination_by distance used base maxLength suffix
decreasing_by exact distance_lt_of_slice? slice taken

/-- The base if it is free, without a cut, and else the first free one of its variants. -/
def search (used : List String) (base : List Char) (maxLength suffix : Nat) : Option Found :=
  if String.ofList base ∈ used then probe used base maxLength suffix
  else some ⟨String.ofList base, []⟩

/-- The characters of a hint that a name may hold, cut at a byte. -/
def cutHint (maxLength : Nat) (hint : String) : Option (List Char) := do
  let chars := hint.toList.filter isNameChar
  let kept ← Text.slice? (String.ofList chars) 0 (min maxLength (Text.byteLength chars))
  return kept.toList

/-- The text that a name starts from: what the cut hint offers, or the stem with the ordinal. -/
def cutBase (stem : String) (maxLength ordinal : Nat) (hint : Option String) : Option (List Char) := do
  let offered ← hint.elim (some []) (cutHint maxLength)
  return if offered.isEmpty then stem.toList ++ Nat.toDigits 10 ordinal else offered

/-- This step hands out one marker, whose name is searched for. -/
def allocate? (allocator : Allocator) (hint : Option String) : Option (Marker × Allocator) :=
  match allocator.style with
  | .named sign stem maxLength => do
      let ordinal := allocator.allocated
      let base ← cutBase stem maxLength ordinal hint
      let found ← search allocator.used base maxLength ordinal
      return (⟨sign ++ found.name, .name found.name, ordinal⟩,
        { allocator with allocated := ordinal + 1, used := found.name :: allocator.used })
  | _ => some (allocator.allocate hint)

/-- The marker that a call is answered with if its name is searched for, and the allocator behind it. -/
def answer? (allocator : Allocator) : Call → Option (Marker × Allocator)
  | .next => allocator.allocate? none
  | .nextFor hint => allocator.allocate? (some hint)

/-- The markers of a row of calls whose names are searched for, and the allocator behind them. There are
none if a search has no result. -/
def handOut? (allocator : Allocator) : List Call → Option (List Marker × Allocator)
  | [] => some ([], allocator)
  | call :: rest => do
      let (marker, next) ← allocator.answer? call
      let (markers, last) ← handOut? next rest
      return (marker :: markers, last)

section Searches

variable {base : List Char} {used : List String} {maxLength suffix : Nat}

/-- Cutting a hint at a byte splits no character. -/
theorem cutHint_eq (maxLength : Nat) (hint : String) :
    cutHint maxLength hint = some (namePart maxLength hint) := by
  have valid : ∀ char ∈ hint.toList.filter isNameChar, isNameChar char = true := fun _ =>
    List.of_mem_filter
  have narrow : ∀ char ∈ hint.toList.filter isNameChar, char.toNat < 128 := fun char member =>
    narrow_of_isNameChar (valid char member)
  rw [cutHint, Text.slice?_start (Text.isValid_narrow narrow (Nat.min_le_right _ _)),
    Text.takeBytes_narrow narrow, byteLength_nameChars valid, ← List.take_eq_take_min]
  exact congrArg some String.toList_ofList

theorem cutBase_eq (stem : String) (maxLength ordinal : Nat) (hint : Option String) :
    cutBase stem maxLength ordinal hint = some (baseName stem maxLength ordinal hint) := by
  cases hint with
  | none => rfl
  | some text =>
      rw [cutBase, Option.elim_some, cutHint_eq]
      rfl

/-- A base of ASCII may be cut for every suffix. -/
theorem isValid_keptBytes (narrow : ∀ char ∈ base, char.toNat < 128) (maxLength suffix : Nat) :
    String.Pos.Raw.IsValid (String.ofList base) ⟨keptBytes base maxLength suffix⟩ :=
  Text.isValid_narrow narrow (Nat.min_le_left _ _)

/-- One probe of a base that may be cut. -/
theorem probe_of_isValid
    (valid : String.Pos.Raw.IsValid (String.ofList base) ⟨keptBytes base maxLength suffix⟩) :
    probe used base maxLength suffix =
      if suffixed base maxLength suffix ∈ used then
        (probe used base maxLength (suffix + 1)).map fun found =>
          ⟨found.name, keptBytes base maxLength suffix :: found.cuts⟩
      else some ⟨suffixed base maxLength suffix, [keptBytes base maxLength suffix]⟩ := by
  have slice := Text.slice?_start valid
  rw [probe]
  split
  · rename_i missing
    cases slice.symm.trans missing
  · rename_i kept present
    obtain rfl := Option.some.inj (slice.symm.trans present)
    simp only [suffixed, String.ofList_append, dite_eq_ite]

/-- Probing a base of ASCII ends at the first free variant. -/
theorem probe_narrow (narrow : ∀ char ∈ base, char.toNat < 128) (used : List String)
    (maxLength suffix : Nat) :
    probe used base maxLength suffix =
      some ⟨suffixed base maxLength (suffix + distance used base maxLength suffix),
        (List.range' suffix (distance used base maxLength suffix + 1)).map (keptBytes base maxLength)⟩ := by
  generalize steps : distance used base maxLength suffix = step
  induction step generalizing suffix with
  | zero =>
      have free := (distance_spec used base maxLength suffix).2
      rw [steps] at free
      rw [probe_of_isValid (isValid_keptBytes narrow maxLength suffix)]
      exact if_neg free
  | succ step inductionHypothesis =>
      have taken : suffixed base maxLength (suffix + 0) ∈ used := mem_of_lt_distance (by omega)
      have behind : distance used base maxLength (suffix + 1) = step := by
        have := distance_of_taken taken
        rw [Nat.add_zero] at this
        omega
      have further : suffix + (step + 1) = suffix + 1 + step := by omega
      rw [probe_of_isValid (isValid_keptBytes narrow maxLength suffix), inductionHypothesis _ behind, further,
        List.range'_succ]
      exact if_pos taken

/-- A search takes at most one probe more than there are names in use. Each probe cuts the base inside its
text and between two characters. -/
structure Found.Bounded (found : Found) (used : List String) (base : String) : Prop where
  few : found.cuts.length ≤ used.length + 1
  inside : ∀ cut ∈ found.cuts, cut ≤ base.utf8ByteSize
  whole : ∀ cut ∈ found.cuts, String.Pos.Raw.IsValid base ⟨cut⟩

/-- A search finds the unique name, if only bases of ASCII are in use. -/
theorem exists_search (narrow : String.ofList base ∈ used → ∀ char ∈ base, char.toNat < 128)
    (maxLength suffix : Nat) :
    ∃ found, search used base maxLength suffix = some found ∧
      found.name = uniqueName used base maxLength suffix ∧ found.Bounded used (String.ofList base) := by
  by_cases inUse : String.ofList base ∈ used
  · have valid : ∀ cut ∈ (List.range' suffix (distance used base maxLength suffix + 1)).map
        (keptBytes base maxLength), String.Pos.Raw.IsValid (String.ofList base) ⟨cut⟩ := by
      intro cut member
      obtain ⟨tried, _, rfl⟩ := List.mem_map.mp member
      exact isValid_keptBytes (narrow inUse) maxLength tried
    refine ⟨_, (if_pos inUse).trans (probe_narrow (narrow inUse) used maxLength suffix),
      (uniqueName_of_mem inUse maxLength suffix).symm, ?_, ?_, valid⟩
    · rw [List.length_map, List.length_range']
      exact Nat.succ_le_succ (distance_spec used base maxLength suffix).1
    · intro cut member
      exact (valid cut member).le_rawEndPos
  · exact ⟨_, if_neg inUse, (if_neg inUse).symm, Nat.zero_le _, List.forall_mem_nil _,
      List.forall_mem_nil _⟩

end Searches

/-- The names in use differ, and each of them is written in ASCII or is the stem with the ordinal of a
marker handed out. -/
structure Accounted (stem : String) (allocator : Allocator) : Prop where
  distinct : allocator.used.Nodup
  names : ∀ name ∈ allocator.used, (∀ char ∈ name.toList, char.toNat < 128) ∨
    ∃ ordinal < allocator.allocated, name = String.ofList (stem.toList ++ Nat.toDigits 10 ordinal)

section Runs

variable {sign stem : String} {maxLength : Nat} {start : Allocator}

/-- The stem with the next ordinal is in use only as a name that was made of a hint. -/
theorem Accounted.narrow (accounted : Accounted stem start) (maxLength : Nat) (hint : Option String)
    (inUse : String.ofList (baseName stem maxLength start.allocated hint) ∈ start.used) :
    ∀ char ∈ baseName stem maxLength start.allocated hint, char.toNat < 128 := by
  rcases baseName_cases stem maxLength start.allocated hint with same | ⟨text, _, same⟩
  · rw [same] at inUse ⊢
    rcases accounted.names _ inUse with narrow | ⟨ordinal, earlier, made⟩
    · rwa [String.toList_ofList] at narrow
    · -- The ordinal of this call is not one of those before it, so neither are the digits behind the stem.
      have digits := List.append_cancel_left (String.ofList_injective made)
      exact absurd (toDigits_injective digits).symm (Nat.ne_of_lt earlier)
  · rw [same]
    exact fun char member => narrow_of_isNameChar (isNameChar_of_mem_namePart member)

/-- Searching for the name gives the next marker. -/
theorem Accounted.allocate?_eq (accounted : Accounted stem start)
    (named : start.style = .named sign stem maxLength) (hint : Option String) :
    start.allocate? hint = some (start.allocate hint) := by
  obtain ⟨found, searched, same, _⟩ :=
    exists_search (accounted.narrow maxLength hint) maxLength start.allocated
  rw [allocate?, allocate, named]
  simp only [cutBase_eq, searched, same, Option.bind_eq_bind, Option.bind_some]
  rfl

/-- The next name is accounted for: a variant is made only of a base of ASCII. -/
theorem Accounted.allocate (accounted : Accounted stem start)
    (named : start.style = .named sign stem maxLength) (hint : Option String) :
    Accounted stem (start.allocate hint).2 := by
  have fresh := uniqueName_not_mem start.used (baseName stem maxLength start.allocated hint) maxLength
    start.allocated
  rw [Allocator.allocate, named]
  refine ⟨List.nodup_cons.mpr ⟨fresh, accounted.distinct⟩, List.forall_mem_cons.mpr ⟨?_, ?_⟩⟩
  · by_cases inUse : String.ofList (baseName stem maxLength start.allocated hint) ∈ start.used
    · -- A variant consists of characters of its base, which is of ASCII here, and of its suffix.
      refine .inl fun char member => ?_
      rcases mem_uniqueName member with inBase | valid
      · exact accounted.narrow maxLength hint inUse char inBase
      · exact narrow_of_isNameChar valid
    · rw [uniqueName, if_neg inUse, String.toList_ofList]
      rcases baseName_cases stem maxLength start.allocated hint with same | ⟨text, _, same⟩
      · exact .inr ⟨start.allocated, Nat.lt_succ_self _, congrArg String.ofList same⟩
      · rw [same]
        exact .inl fun char member => narrow_of_isNameChar (isNameChar_of_mem_namePart member)
  · intro name member
    rcases accounted.names name member with narrow | ⟨ordinal, earlier, made⟩
    · exact .inl narrow
    · exact .inr ⟨ordinal, Nat.lt_succ_of_lt earlier, made⟩

/-- Searching for the names gives the markers of a row of calls, and all names stay accounted for. -/
theorem Accounted.handOut?_eq (accounted : Accounted stem start)
    (named : start.style = .named sign stem maxLength) (calls : List Call) :
    start.handOut? calls = some (start.handOut calls) ∧ Accounted stem (start.handOut calls).2 := by
  induction calls generalizing start with
  | nil => exact ⟨rfl, accounted⟩
  | cons call rest inductionHypothesis =>
      obtain ⟨hint, answers, searches⟩ : ∃ hint, start.answer call = start.allocate hint ∧
          start.answer? call = start.allocate? hint := by
        cases call with
        | next => exact ⟨none, rfl, rfl⟩
        | nextFor hint => exact ⟨some hint, rfl, rfl⟩
      obtain ⟨following, behind⟩ :=
        inductionHypothesis (accounted.allocate named hint) ((start.allocate_style hint).trans named)
      rw [handOut?, handOut, searches, answers, accounted.allocate?_eq named hint]
      simp only [Option.bind_eq_bind, Option.bind_some, following]
      exact ⟨rfl, behind⟩

end Runs

/-- Whatever the stem and the limit of a style with names are, the markers of a row of calls with any
hints are those whose names are searched for, so each search ends and splits no character. In the state
behind the calls, the search for a next name tries at most one variant more than there are names in use,
and each time cuts the base inside its text and between two characters. -/
theorem handOut_probed (sign stem : String) (maxLength : Nat) (calls : List Call) :
    let start := (MarkerStyle.named sign stem maxLength).allocator
    let allocator := (start.handOut calls).2
    start.handOut? calls = some (start.handOut calls) ∧ allocator.used.Nodup ∧
      ∀ hint : Option String, ∃ base found,
        cutBase stem maxLength allocator.allocated hint = some base ∧
        search allocator.used base maxLength allocator.allocated = some found ∧
        (allocator.allocate hint).1.target = .name found.name ∧
        found.Bounded allocator.used (String.ofList base) := by
  intro start allocator
  have fresh : Accounted stem start := ⟨List.nodup_nil, List.forall_mem_nil _⟩
  obtain ⟨searches, accounted⟩ := fresh.handOut?_eq rfl calls
  refine ⟨searches, accounted.distinct, ?_⟩
  intro hint
  have named : allocator.style = .named sign stem maxLength := (handOut_hands start calls).style
  obtain ⟨found, searched, same, bounded⟩ :=
    exists_search (accounted.narrow maxLength hint) maxLength allocator.allocated
  refine ⟨_, found, cutBase_eq stem maxLength allocator.allocated hint, searched, ?_, bounded⟩
  rw [same, allocate, named]

/-- The bound is attained where a variant of the base is the base. It is cut behind the first letter. -/
theorem handOut_probed_attained :
    let allocator := ((MarkerStyle.named "@" "ü1" 3).allocator.handOut [.nextFor "a_1"]).2
    let found : Found := ⟨"a_2", [1, 1]⟩
    search allocator.used "a_1".toList 3 allocator.allocated = some found ∧
      found.cuts.length = allocator.used.length + 1 ∧ found.Bounded allocator.used "a_1" := by
  intro allocator found
  obtain ⟨base, other, cut, searched, _, bounded⟩ :=
    (handOut_probed "@" "ü1" 3 [.nextFor "a_1"]).2.2 (some "a_1")
  have whole : cutBase "ü1" 3 allocator.allocated (some "a_1") = some "a_1".toList := by rfl
  have narrow : ∀ char ∈ "a_1".toList, char.toNat < 128 := by simp
  have finds : search allocator.used "a_1".toList 3 allocator.allocated = some found := by
    rw [search, if_pos (by decide +kernel), probe_of_isValid (isValid_keptBytes narrow _ _),
      if_pos (by decide +kernel), probe_of_isValid (isValid_keptBytes narrow _ _),
      if_neg (by decide +kernel)]
    decide +kernel
  obtain rfl := Option.some.inj (cut.symm.trans whole)
  obtain rfl := Option.some.inj (searched.symm.trans finds)
  exact ⟨finds, by rfl, bounded⟩

/-- In a state that no calls lead to, the search would split a character. -/
example : search ["ü1"] "ü1".toList 3 1 = none := by
  have splits : Text.slice? (String.ofList "ü1".toList) 0 (keptBytes "ü1".toList 3 1) = none := by
    decide +kernel
  rw [search, if_pos (by decide +kernel), probe]
  split
  · rfl
  · rename_i kept present
    cases splits.symm.trans present

end Allocator

end BindPlan
