import BindPlan.Proofs.Marker.Calls
import BindPlan.Proofs.Marker.Spelling
import BindPlan.Proofs.Text.Utf8
import Mathlib.Data.Nat.Digits.Defs

namespace BindPlan

namespace Allocator

variable {base : List Char} {maxLength suffix ordinal : Nat} {stem : String}

/-- A driver can take the name: it is not empty, is written with the characters of names, and takes no
more bytes than the limit. -/
structure Identifies (maxLength : Nat) (name : String) : Prop where
  filled : name ≠ ""
  chars : ∀ char ∈ name.toList, isNameChar char = true
  short : name.utf8ByteSize ≤ maxLength

theorem narrow_of_isNameChar {char : Char} (valid : isNameChar char = true) : char.toNat < 128 := by
  have below {highest : Char} (narrow : highest.toNat < 128) (inRange : char.val ≤ highest.val) :
      char.toNat < 128 :=
    Nat.lt_of_le_of_lt (UInt32.le_iff_toNat_le.mp inRange) narrow
  rcases Bool.or_eq_true_iff.mp valid with alphanumeric | underscore
  · rcases Bool.or_eq_true_iff.mp alphanumeric with letter | digit
    · rcases Bool.or_eq_true_iff.mp letter with upper | lower
      · exact below (by decide : 'Z'.toNat < 128) (of_decide_eq_true upper).2
      · exact below (by decide : 'z'.toNat < 128) (of_decide_eq_true (Bool.and_eq_true_iff.mp lower).2)
    · exact below (by decide : '9'.toNat < 128) (of_decide_eq_true (Bool.and_eq_true_iff.mp digit).2)
  · rw [beq_iff_eq.mp underscore]
    decide

theorem byteLength_nameChars {chars : List Char} (valid : ∀ char ∈ chars, isNameChar char = true) :
    Text.byteLength chars = chars.length :=
  Text.byteLength_narrow fun char member => narrow_of_isNameChar (valid char member)

theorem byteLength_toDigits (number : Nat) :
    Text.byteLength (Nat.toDigits 10 number) = (Nat.toDigits 10 number).length :=
  byteLength_nameChars fun _ member => isNameChar_of_isDigit (isDigit_of_mem member)

/-- A name with a suffix keeps to a limit that the suffix alone keeps to. -/
theorem short_suffixed (room : (suffixText suffix).length ≤ maxLength) :
    (suffixed base maxLength suffix).utf8ByteSize ≤ maxLength := by
  have tail : Text.byteLength (suffixText suffix) = (suffixText suffix).length := by
    rw [suffixText, Text.byteLength_cons, byteLength_toDigits, List.length_cons, Nat.add_comm]
    rfl
  have kept := Text.byteLength_takeBytes_le (keptBytes base maxLength suffix) base
  have cut : keptBytes base maxLength suffix ≤ maxLength - (suffixText suffix).length :=
    Nat.min_le_right _ _
  rw [suffixed, Text.utf8ByteSize_ofList, Text.byteLength_append, tail]
  omega

/-- A suffix of 64 bits takes an underscore and at most twenty digits. -/
theorem length_suffixText_le (fits : suffix < 2 ^ 64) : (suffixText suffix).length ≤ 21 := by
  have digits := Nat.toDigits_length 10 suffix 20 (by decide) (Nat.lt_trans fits (by decide))
  rw [suffixText, List.length_cons]
  omega

theorem baseName_ne_nil (hint : Option String) : baseName stem maxLength ordinal hint ≠ [] := by
  rcases baseName_cases stem maxLength ordinal hint with same | ⟨text, filled, same⟩
  · rw [same]
    exact List.append_ne_nil_of_right_ne_nil _ Nat.toDigits_ne_nil
  · rwa [same]

/-- A hint is cut to the limit. A stem needs room for its ordinal. -/
theorem byteLength_baseName_le (fits : ordinal < 2 ^ 63)
    (room : stem.utf8ByteSize + 20 ≤ maxLength) (hint : Option String) :
    Text.byteLength (baseName stem maxLength ordinal hint) ≤ maxLength := by
  rcases baseName_cases stem maxLength ordinal hint with same | ⟨text, _, same⟩
  · have digits := Nat.toDigits_length 10 ordinal 19 (by decide) (Nat.lt_trans fits (by decide))
    have stemBytes : Text.byteLength stem.toList = stem.utf8ByteSize := by
      rw [← Text.utf8ByteSize_ofList, String.ofList_toList]
    rw [same, Text.byteLength_append, byteLength_toDigits, stemBytes]
    omega
  · rw [same, byteLength_nameChars fun _ => isNameChar_of_mem_namePart]
    exact List.length_take_le _ _

theorem uniqueName_ne_empty (filled : base ≠ []) (used : List String) (maxLength suffix : Nat) :
    uniqueName used base maxLength suffix ≠ "" := by
  rcases uniqueName_cases used base maxLength suffix with ⟨same, _⟩ | ⟨step, _, _, same⟩
  · rwa [same, ne_eq, String.ofList_eq_empty_iff]
  · rw [same, ne_eq, suffixed, String.ofList_eq_empty_iff, suffixText]
    simp

/-- A unique name is an identifier where its base and all suffixes keep to the limit. -/
theorem identifies_uniqueName {used : List String} (filled : base ≠ [])
    (chars : ∀ char ∈ base, isNameChar char = true) (short : Text.byteLength base ≤ maxLength)
    (room : 21 ≤ maxLength) (fits : suffix + used.length < 2 ^ 64) :
    Identifies maxLength (uniqueName used base maxLength suffix) := by
  refine ⟨uniqueName_ne_empty filled used maxLength suffix, ?_, ?_⟩
  · intro char member
    rcases mem_uniqueName member with inBase | valid
    · exact chars char inBase
    · exact valid
  · rcases uniqueName_cases used base maxLength suffix with ⟨same, _⟩ | ⟨step, near, _, same⟩
    · rwa [same, Text.utf8ByteSize_ofList]
    · rw [same]
      apply short_suffixed
      exact (length_suffixText_le (by omega)).trans room

section Runs

variable {sign : String} {start finish : Allocator} {markers : List Marker}

/-- The marker is named by an identifier and written as the sign with the name behind it. -/
def NamedBy (sign : String) (maxLength : Nat) (marker : Marker) : Prop :=
  ∃ name, Identifies maxLength name ∧ marker.target = .name name ∧ marker.placeholder = sign ++ name

/-- One marker is named by an identifier, as long as its ordinal takes no more than 63 bits and there are
no more names in use than markers were handed out. -/
theorem namedBy_allocate (named : start.style = .named sign stem maxLength)
    (chars : ∀ char ∈ stem.toList, isNameChar char = true) (room : 21 ≤ maxLength)
    (stemRoom : stem.utf8ByteSize + 20 ≤ maxLength) (few : start.allocated < 2 ^ 63)
    (used : start.used.length ≤ start.allocated) (hint : Option String) :
    NamedBy sign maxLength (start.allocate hint).1 := by
  have inBase : ∀ char ∈ baseName stem maxLength start.allocated hint, isNameChar char = true := by
    intro char member
    rcases mem_baseName member with inStem | valid
    · exact chars char inStem
    · exact valid
  have identifies : Identifies maxLength (uniqueName start.used
      (baseName stem maxLength start.allocated hint) maxLength start.allocated) :=
    identifies_uniqueName (baseName_ne_nil hint) inBase (byteLength_baseName_le few stemRoom hint) room
      (by omega)
  refine ⟨_, identifies, ?_, ?_⟩ <;> rw [allocate, named]

theorem length_used_allocate (used : start.used.length ≤ start.allocated) (hint : Option String) :
    (start.allocate hint).2.used.length ≤ (start.allocate hint).2.allocated := by
  unfold allocate
  split
  · exact Nat.le_succ_of_le used
  · exact Nat.le_succ_of_le used
  · exact Nat.succ_le_succ used

/-- All markers of a row are named by identifiers. -/
theorem Hands.namedBy (hands : Hands start markers finish)
    (named : start.style = .named sign stem maxLength)
    (chars : ∀ char ∈ stem.toList, isNameChar char = true) (room : 21 ≤ maxLength)
    (stemRoom : stem.utf8ByteSize + 20 ≤ maxLength) (few : start.allocated + markers.length ≤ 2 ^ 63)
    (used : start.used.length ≤ start.allocated) :
    ∀ marker ∈ markers, NamedBy sign maxLength marker := by
  induction hands with
  | none =>
      intro marker member
      cases member
  | @next start finish markers hint rest inductionHypothesis =>
      rw [List.length_cons] at few
      rw [List.forall_mem_cons]
      refine ⟨namedBy_allocate named chars room stemRoom (by omega) used hint, ?_⟩
      apply inductionHypothesis ((start.allocate_style hint).trans named) _
        (length_used_allocate used hint)
      rw [allocate_allocated]
      omega

end Runs

/-- In fewer than 2^63 calls on a fresh allocator, with any hints, a style whose limit leaves room for
suffixes and ordinals names each marker by an identifier within the limit. The placeholder is the sign
of the style with that name behind it. -/
theorem handOut_identified (sign stem : String) (maxLength : Nat) (calls : List Call)
    (chars : ∀ char ∈ stem.toList, isNameChar char = true) (room : 21 ≤ maxLength)
    (stemRoom : stem.utf8ByteSize + 20 ≤ maxLength) (few : calls.length < 2 ^ 63) :
    ∀ marker ∈ ((MarkerStyle.named sign stem maxLength).allocator.handOut calls).1,
      ∃ name, Identifies maxLength name ∧ marker.target = .name name ∧
        marker.placeholder = sign ++ name := by
  have hands := handOut_hands (MarkerStyle.named sign stem maxLength).allocator calls
  apply hands.namedBy rfl chars room stemRoom
  · rw [length_handOut]
    change 0 + calls.length ≤ 2 ^ 63
    omega
  · exact Nat.le_refl 0

/-- At the smallest limit a long hint is cut, and cut again for its suffix. A hint without a character of
a name leaves the stem, and a hint that is a name in use takes a suffix. -/
theorem handOut_identified_crowded :
    let hint := "name of the customer who placed the order"
    let calls : List Call := [.nextFor hint, .nextFor hint, .nextFor "名前", .nextFor "P2", .next]
    let markers := ((MarkerStyle.named "@" "P" 21).allocator.handOut calls).1
    (∀ char ∈ "P".toList, isNameChar char = true) ∧ 21 ≤ 21 ∧ "P".utf8ByteSize + 20 ≤ 21 ∧
      calls.length < 2 ^ 63 ∧ markers.length = 5 ∧
      ∀ marker ∈ markers, ∃ name, Identifies 21 name ∧ marker.target = .name name ∧
        marker.placeholder = "@" ++ name := by
  intro hint calls markers
  have chars : ∀ char ∈ "P".toList, isNameChar char = true := by
    intro char member
    obtain rfl := List.mem_singleton.mp member
    decide
  have room : 21 ≤ 21 := Nat.le_refl 21
  have stemRoom : "P".utf8ByteSize + 20 ≤ 21 := by decide
  have few : calls.length < 2 ^ 63 := by decide
  have identified := handOut_identified "@" "P" 21 calls chars room stemRoom few
  exact ⟨chars, room, stemRoom, few, length_handOut _ calls, identified⟩

/-- The suffix of a cut name takes the place of its last characters. -/
example : suffixed "nameofthecustomerwhop".toList 21 1 = "nameofthecustomerwh_1" := by
  rfl

end Allocator

end BindPlan
