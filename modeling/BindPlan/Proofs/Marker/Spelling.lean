import BindPlan.Dialect.Basic
import BindPlan.Proofs.Marker.Handout

namespace BindPlan

namespace Text

theorem mem_of_mem_takeBytes {limit : Nat} {text : List Char} {char : Char}
    (member : char ∈ takeBytes limit text) : char ∈ text := by
  induction text generalizing limit with
  | nil => exact member
  | cons first rest inductionHypothesis =>
      rw [takeBytes] at member
      split at member
      · rcases List.mem_cons.mp member with rfl | member
        · exact List.mem_cons_self
        · exact List.mem_cons_of_mem _ (inductionHypothesis member)
      · cases member

end Text

namespace Allocator

variable {char : Char} {base : List Char} {maxLength : Nat}

theorem isNameChar_of_isDigit (digit : char.isDigit = true) : isNameChar char = true := by
  simp [isNameChar, Char.isAlphanum, digit]

theorem isDigit_of_mem {number : Nat} (member : char ∈ Nat.toDigits 10 number) :
    char.isDigit = true :=
  Nat.isDigit_of_mem_toDigits (by decide) (by decide) member

theorem mem_suffixed {suffix : Nat} (member : char ∈ (suffixed base maxLength suffix).toList) :
    char ∈ base ∨ isNameChar char = true := by
  rw [suffixed, String.toList_ofList, suffixText, List.mem_append, List.mem_cons] at member
  rcases member with kept | rfl | digit
  · exact .inl (Text.mem_of_mem_takeBytes kept)
  · exact .inr (by decide)
  · exact .inr (isNameChar_of_isDigit (isDigit_of_mem digit))

/-- Making a base unique adds no character but an underscore and digits. -/
theorem mem_uniqueName {used : List String} {suffix : Nat}
    (member : char ∈ (uniqueName used base maxLength suffix).toList) :
    char ∈ base ∨ isNameChar char = true := by
  rcases uniqueName_cases used base maxLength suffix with ⟨same, _⟩ | ⟨step, _, _, same⟩
  · rw [same, String.toList_ofList] at member
    exact .inl member
  · rw [same] at member
    exact mem_suffixed member

theorem isNameChar_of_mem_namePart {hint : String} (member : char ∈ namePart maxLength hint) :
    isNameChar char = true :=
  List.of_mem_filter (List.mem_of_mem_take member)

/-- A name starts from the stem with its ordinal, or from the part of a hint that a name may hold. -/
theorem baseName_cases (stem : String) (maxLength ordinal : Nat) (hint : Option String) :
    baseName stem maxLength ordinal hint = stem.toList ++ Nat.toDigits 10 ordinal ∨
      ∃ text, namePart maxLength text ≠ [] ∧
        baseName stem maxLength ordinal hint = namePart maxLength text := by
  cases hint with
  | none => exact .inl rfl
  | some text =>
      by_cases empty : namePart maxLength text = []
      · refine .inl ?_
        simp [baseName, empty]
      · refine .inr ⟨text, empty, ?_⟩
        simp [baseName, empty]

theorem mem_baseName {stem : String} {ordinal : Nat} {hint : Option String}
    (member : char ∈ baseName stem maxLength ordinal hint) :
    char ∈ stem.toList ∨ isNameChar char = true := by
  rcases baseName_cases stem maxLength ordinal hint with same | ⟨text, _, same⟩
  · rw [same, List.mem_append] at member
    exact member.imp_right fun digit => isNameChar_of_isDigit (isDigit_of_mem digit)
  · rw [same] at member
    exact .inr (isNameChar_of_mem_namePart member)

end Allocator

/-- The characters that a style writes placeholders with. -/
def MarkerStyle.Spells : MarkerStyle → Char → Prop
  | .indexed sign _, char => char ∈ sign.toList ∨ char.isDigit = true
  | .anonymous placeholder, char => char ∈ placeholder.toList
  | .named sign stem _, char =>
      char ∈ sign.toList ∨ char ∈ stem.toList ∨ Allocator.isNameChar char = true

/-- A placeholder is written with the characters of its style. -/
theorem Allocator.allocate_spells (allocator : Allocator) (hint : Option String) :
    ∀ char ∈ (allocator.allocate hint).1.placeholder.toList, allocator.style.Spells char := by
  intro char member
  unfold allocate at member
  split at member
  · rename_i sign start style
    rw [style]
    rw [String.toList_append, List.mem_append] at member
    rcases member with inSign | digit
    · exact .inl inSign
    · rw [Nat.toString_eq_repr, Nat.toList_repr] at digit
      exact .inr (isDigit_of_mem digit)
  · rename_i placeholder style
    rw [style]
    exact member
  · rename_i sign stem maxLength style
    rw [style]
    rw [String.toList_append, List.mem_append] at member
    rcases member with inSign | inName
    · exact .inl inSign
    · rcases mem_uniqueName inName with inBase | valid
      · exact .inr (mem_baseName inBase)
      · exact .inr (.inr valid)

/-- An allocator of the style may hand out the marker. -/
def MarkerStyle.HandsOut (style : MarkerStyle) (marker : Marker) : Prop :=
  ∃ (allocator : Allocator) (hint : Option String),
    allocator.style = style ∧ (allocator.allocate hint).1 = marker

theorem Allocator.Hands.handsOut {start finish : Allocator} {markers : List Marker}
    (hands : start.Hands markers finish) : ∀ marker ∈ markers, start.style.HandsOut marker := by
  induction hands with
  | none =>
      intro marker member
      cases member
  | @next start finish markers hint rest inductionHypothesis =>
      intro marker member
      rcases List.mem_cons.mp member with rfl | member
      · exact ⟨start, hint, rfl, rfl⟩
      · rw [allocate_style] at inductionHypothesis
        exact inductionHypothesis marker member

namespace Dialect

variable {dialect : Dialect} {marker : Marker}

/-- No placeholder of a dialect is without a character. -/
theorem placeholder_ne_nil (handed : dialect.markerStyle.HandsOut marker) :
    marker.placeholder.toList ≠ [] := by
  obtain ⟨allocator, hint, style, rfl⟩ := handed
  unfold Allocator.allocate
  cases dialect <;> simp [style, markerStyle]

/-- Placeholders are written with a sign, with letters and digits of ASCII, and with underscores. -/
theorem placeholder_chars (handed : dialect.markerStyle.HandsOut marker) :
    ∀ char ∈ marker.placeholder.toList,
      char ∈ ['$', '?', '@', ':'] ∨ Allocator.isNameChar char = true := by
  obtain ⟨allocator, hint, style, rfl⟩ := handed
  intro char member
  have spells := allocator.allocate_spells hint char member
  rw [style] at spells
  cases dialect with
  | postgres | h2 =>
      rcases spells with sign | digit
      · exact .inl (List.mem_append_left _ sign)
      · exact .inr (Allocator.isNameChar_of_isDigit digit)
  | mysql | sqlite =>
      obtain rfl := List.mem_singleton.mp spells
      exact .inl (by decide)
  | sqlserver | oracle =>
      rcases spells with sign | stem | valid
      · obtain rfl := List.mem_singleton.mp sign
        exact .inl (by decide)
      · obtain rfl := List.mem_singleton.mp stem
        exact .inr (by decide)
      · exact .inr valid

end Dialect

end BindPlan
