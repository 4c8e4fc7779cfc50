import BindPlan.Marker.Basic
import BindPlan.Text.Bytes

namespace BindPlan

/-- The markers handed out so far: how many, and the names among them. -/
structure Allocator where
  style : MarkerStyle
  allocated : Nat
  used : List String
deriving DecidableEq, Repr

/-- The allocator that has handed out nothing. -/
def MarkerStyle.allocator (style : MarkerStyle) : Allocator := ⟨style, 0, []⟩

namespace Allocator

/-- A name may hold letters and digits of ASCII and underscores. -/
def isNameChar (char : Char) : Bool := char.isAlphanum || char == '_'

/-- The characters of a hint that a name may hold, cut to the length limit. Each takes one byte. -/
def namePart (maxLength : Nat) (hint : String) : List Char :=
  (hint.toList.filter isNameChar).take maxLength

/-- The end of a name that tells it apart from an equal one. -/
def suffixText (suffix : Nat) : List Char := '_' :: Nat.toDigits 10 suffix

/-- The number of bytes of the base that stay in front of a suffix. -/
def keptBytes (base : List Char) (maxLength suffix : Nat) : Nat :=
  min (Text.byteLength base) (maxLength - (suffixText suffix).length)

/-- The base with a suffix, the base being cut so that the name keeps to the length limit. -/
def suffixed (base : List Char) (maxLength suffix : Nat) : String :=
  String.ofList (Text.takeBytes (keptBytes base maxLength suffix) base ++ suffixText suffix)

/-- The base if it is free, and else its first free variant with a suffix from `suffix` upward.
Different suffixes give different names, so among one variant more than there are names in use one
is free. -/
def uniqueName (used : List String) (base : List Char) (maxLength suffix : Nat) : String :=
  let name := String.ofList base
  if name ∈ used then
    let found := (List.range (used.length + 1)).findSome? fun step =>
      let variant := suffixed base maxLength (suffix + step)
      if variant ∈ used then none else some variant
    found.getD name
  else name

/-- The text that a name starts from: what the hint offers, or the stem with the ordinal. -/
def baseName (stem : String) (maxLength ordinal : Nat) (hint : Option String) : List Char :=
  let offered := (hint.map (namePart maxLength)).getD []
  if offered.isEmpty then stem.toList ++ Nat.toDigits 10 ordinal else offered

/-- This step hands out one marker. -/
def allocate (allocator : Allocator) (hint : Option String) : Marker × Allocator :=
  let ordinal := allocator.allocated
  match allocator.style with
  | .indexed sign start =>
      (⟨sign ++ toString (start + UInt64.ofNat ordinal).toNat, .index ordinal, ordinal⟩,
        { allocator with allocated := ordinal + 1 })
  | .anonymous placeholder =>
      (⟨placeholder, .index ordinal, ordinal⟩, { allocator with allocated := ordinal + 1 })
  | .named sign stem maxLength =>
      let name :=
        uniqueName allocator.used (baseName stem maxLength ordinal hint) maxLength ordinal
      (⟨sign ++ name, .name name, ordinal⟩,
        { allocator with allocated := ordinal + 1, used := name :: allocator.used })

/-- The next marker, without a hint at its name. -/
def next (allocator : Allocator) : Marker × Allocator := allocator.allocate none

/-- The next marker, named after a hint where the style has names. -/
def nextFor (allocator : Allocator) (hint : String) : Marker × Allocator :=
  allocator.allocate (some hint)

@[simp] theorem allocate_style (allocator : Allocator) (hint : Option String) :
    (allocator.allocate hint).2.style = allocator.style := by
  unfold allocate
  split <;> simp_all

@[simp] theorem allocate_allocated (allocator : Allocator) (hint : Option String) :
    (allocator.allocate hint).2.allocated = allocator.allocated + 1 := by
  unfold allocate
  split <;> rfl

@[simp] theorem allocate_ordinal (allocator : Allocator) (hint : Option String) :
    (allocator.allocate hint).1.ordinal = allocator.allocated := by
  unfold allocate
  split <;> rfl

end Allocator

end BindPlan
