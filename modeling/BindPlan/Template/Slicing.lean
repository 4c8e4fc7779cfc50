import BindPlan.Template.Expansion

namespace BindPlan

namespace Expansion

/-- The pieces of a text from a position on, with markers in place of the occurrences. There are none
if a slice does not exist. -/
def placeSlices (source : Source) (text : String) (position : Nat) :
    List Template.Occurrence → Allocator → Option (Except Error (List Piece))
  | [], _ => do
      let rest ← Text.slice? text position text.utf8ByteSize
      return .ok [.text rest.toList]
  | occurrence :: rest, allocator => do
      let gap ← Text.slice? text position occurrence.start
      match groups occurrence.name (source.value? occurrence.name) with
      | .error error => return .error error
      | .ok groups =>
          let (fragment, allocator) := (placeGroups occurrence.name groups).run allocator
          let following ← placeSlices source text occurrence.stop rest allocator
          return following.map fun pieces =>
            .text gap.toList :: .parameter occurrence.name fragment :: pieces

/-- Where the slice in front of an occurrence exists, the occurrence gives way to its markers. -/
theorem placeSlices_cons {source : Source} {text gap : String} {position : Nat}
    {occurrence : Template.Occurrence} (slice : Text.slice? text position occurrence.start = some gap)
    (rest : List Template.Occurrence) (allocator : Allocator) :
    placeSlices source text position (occurrence :: rest) allocator =
      match groups occurrence.name (source.value? occurrence.name) with
      | .error error => some (.error error)
      | .ok groups =>
          let placed := (placeGroups occurrence.name groups).run allocator
          (placeSlices source text occurrence.stop rest placed.2).map fun following =>
            following.map fun pieces =>
              .text gap.toList :: .parameter occurrence.name placed.1 :: pieces := by
  rw [placeSlices, slice]
  simp only [Option.bind_eq_bind, Option.bind_some]
  cases groups occurrence.name (source.value? occurrence.name) with
  | error error => rfl
  | ok groups =>
      simp only [Option.map_eq_bind]
      rfl

end Expansion

/-- The expansion of a template, whose rewritten text is cut at the positions of its occurrences. -/
def Template.expandSlices (template : Template) (style : MarkerStyle) (source : Source) :
    Option (Except Error Expansion) :=
  (Expansion.placeSlices source template.rewritten 0 template.occurrences style.allocator).map
    fun outcome => do
      let pieces ← outcome
      let supplied := template.names.filterMap fun name =>
        (suppliedValue? source name).map fun value => (name, value)
      return ⟨pieces, supplied⟩

end BindPlan
