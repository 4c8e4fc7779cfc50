import BindPlan.Proofs.Marker.Handout

namespace BindPlan

namespace MarkerStyle

/-- The placeholder of the marker with a target and an ordinal. -/
def written : MarkerStyle → Target → Nat → String
  | .indexed sign start, _, ordinal => sign ++ toString (start + UInt64.ofNat ordinal).toNat
  | .anonymous placeholder, _, _ => placeholder
  | .named sign _ _, .name name, _ => sign ++ name
  | .named sign _ _, .index _, _ => sign

/-- So many markers can be numbered in 64 bits. A style without numbers has no such limit. -/
def Numbers : MarkerStyle → Nat → Prop
  | .indexed _ start, count => start.toNat + count ≤ UInt64.size
  | .anonymous _, _ | .named _ _ _, _ => True

/-- The numbers of the markers differ as long as they do not wrap around. -/
theorem number_injective {start : UInt64} {count first second : Nat}
    (numbers : start.toNat + count ≤ UInt64.size) (firstInside : first < count)
    (secondInside : second < count)
    (same : (start + UInt64.ofNat first).toNat = (start + UInt64.ofNat second).toNat) :
    first = second := by
  have number (ordinal : Nat) (inside : ordinal < count) :
      (start + UInt64.ofNat ordinal).toNat = start.toNat + ordinal := by
    have fits : start.toNat + ordinal < 2 ^ 64 := by
      simp only [UInt64.size] at numbers
      omega
    have narrow : ordinal < 2 ^ 64 := by omega
    rw [UInt64.toNat_add, UInt64.toNat_ofNat', Nat.mod_eq_of_lt narrow, Nat.mod_eq_of_lt fits]
  rw [number first firstInside, number second secondInside] at same
  omega

end MarkerStyle

namespace Allocator

/-- A call for the next marker of an allocator. -/
inductive Call where
  | next
  | nextFor (hint : String)
deriving DecidableEq, Repr

/-- The marker that a call is answered with, and the allocator behind it. -/
def answer (allocator : Allocator) : Call → Marker × Allocator
  | .next => allocator.next
  | .nextFor hint => allocator.nextFor hint

/-- The markers of a row of calls in call order, and the allocator behind them. -/
def handOut (allocator : Allocator) : List Call → List Marker × Allocator
  | [] => ([], allocator)
  | call :: rest =>
      let (marker, next) := allocator.answer call
      let (markers, last) := handOut next rest
      (marker :: markers, last)

theorem handOut_hands (allocator : Allocator) (calls : List Call) :
    allocator.Hands (allocator.handOut calls).1 (allocator.handOut calls).2 := by
  induction calls generalizing allocator with
  | nil => exact .none allocator
  | cons call rest inductionHypothesis =>
      cases call with
      | next => exact .next none (inductionHypothesis _)
      | nextFor hint => exact .next (some hint) (inductionHypothesis _)

@[simp] theorem length_handOut (allocator : Allocator) (calls : List Call) :
    (allocator.handOut calls).1.length = calls.length := by
  induction calls generalizing allocator with
  | nil => rfl
  | cons call rest inductionHypothesis => simp [handOut, inductionHypothesis]

/-- A marker is written as its style writes its target and its ordinal. -/
theorem allocate_written (allocator : Allocator) (hint : Option String) :
    (allocator.allocate hint).1.placeholder = allocator.style.written
      (allocator.allocate hint).1.target (allocator.allocate hint).1.ordinal := by
  unfold allocate
  split <;> simp [MarkerStyle.written, *]

namespace Hands

variable {start finish : Allocator} {markers : List Marker}

theorem written (hands : Hands start markers finish) :
    markers.map Marker.placeholder =
      markers.map fun marker => start.style.written marker.target marker.ordinal := by
  induction hands with
  | none => rfl
  | @next start finish markers hint rest inductionHypothesis =>
      rw [allocate_style] at inductionHypothesis
      rw [List.map_cons, List.map_cons, inductionHypothesis, allocate_written]

/-- The numbers of consecutive ordinals give the markers placeholders of their own. -/
theorem placeholders_indexed {sign : String} {first : UInt64} (hands : Hands start markers finish)
    (indexed : start.style = .indexed sign first)
    (numbers : first.toNat + (start.allocated + markers.length) ≤ UInt64.size) :
    (markers.map Marker.placeholder).Nodup := by
  have placeholders : markers.map Marker.placeholder =
      (markers.map Marker.ordinal).map fun ordinal =>
        sign ++ toString (first + UInt64.ofNat ordinal).toNat := by
    rw [hands.written, indexed, List.map_map]
    rfl
  rw [placeholders, hands.ordinals]
  apply List.Nodup.map_on _ List.nodup_range'
  intro ordinal member other otherMember same
  simp only [List.mem_range'_1] at member otherMember
  apply MarkerStyle.number_injective numbers member.2 otherMember.2
  have numerals := congrArg String.toList same
  simp only [String.toList_append, List.append_cancel_left_eq, Nat.toString_eq_repr,
    Nat.toList_repr] at numerals
  exact toDigits_injective numerals

/-- Distinct names give the markers placeholders of their own. -/
theorem placeholders_named {sign stem : String} {maxLength : Nat}
    (hands : Hands start markers finish) (named : start.style = .named sign stem maxLength) :
    (markers.map Marker.placeholder).Nodup := by
  obtain ⟨names, targets, distinct⟩ := hands.named named
  have placeholders : markers.map Marker.placeholder = names.map (sign ++ ·) := by
    calc markers.map Marker.placeholder
      _ = (markers.map Marker.target).map fun target => start.style.written target 0 := by
          rw [hands.written, named, List.map_map]
          apply List.map_congr_left
          intro marker _
          cases target : marker.target <;> simp [MarkerStyle.written, target]
      _ = names.map (sign ++ ·) := by
          rw [targets, named, List.map_map]
          rfl
  rw [placeholders]
  apply distinct.map
  intro first second same
  simpa using same

end Hands

/-- The markers of a row of calls count up from zero and have distinct targets. Where placeholders are
identifiable and numbers do not run out, the placeholders are distinct as well. -/
theorem handOut_distinct (style : MarkerStyle) (calls : List Call) :
    let markers := (style.allocator.handOut calls).1
    markers.map Marker.ordinal = List.range calls.length ∧
      (markers.map Marker.target).Nodup ∧
      (style.identifiable = true → style.Numbers calls.length →
        (markers.map Marker.placeholder).Nodup) := by
  intro markers
  have hands := handOut_hands style.allocator calls
  have long : markers.length = calls.length := length_handOut style.allocator calls
  refine ⟨?_, hands.targets.1, ?_⟩
  · rw [← long]
    exact hands.ordinals_fresh
  · intro identifiable numbers
    cases style with
    | indexed sign first =>
        apply hands.placeholders_indexed rfl
        rw [length_handOut]
        change first.toNat + (0 + calls.length) ≤ UInt64.size
        rw [Nat.zero_add]
        exact numbers
    | anonymous placeholder => cases identifiable
    | named sign stem maxLength => exact hands.placeholders_named rfl

/-- The last two numbers of 64 bits are written before the numbers run out. -/
theorem handOut_distinct_highest :
    let style : MarkerStyle := .indexed "$" 18446744073709551614
    let markers : List Marker :=
      [⟨"$18446744073709551614", .index 0, 0⟩, ⟨"$18446744073709551615", .index 1, 1⟩]
    style.identifiable = true ∧ style.Numbers 2 ∧
      (style.allocator.handOut [.nextFor "id", .next]).1 = markers ∧
      markers.map Marker.ordinal = List.range 2 ∧ (markers.map Marker.target).Nodup ∧
      (markers.map Marker.placeholder).Nodup := by
  intro style markers
  have numbers : style.Numbers 2 := by
    change (18446744073709551614 : UInt64).toNat + 2 ≤ UInt64.size
    decide
  have handed : (style.allocator.handOut [.nextFor "id", .next]).1 = markers := by decide +kernel
  have distinct := handOut_distinct style [.nextFor "id", .next]
  rw [handed] at distinct
  exact ⟨rfl, numbers, handed, distinct.1, distinct.2.1, distinct.2.2 rfl numbers⟩

/-- A name with a number at its end stays free of a name that is made of an ordinal. -/
example : ((MarkerStyle.named "@" "P" 32).allocator.handOut
      [.nextFor "id", .nextFor "id", .next, .nextFor "P2"]).1.map Marker.placeholder =
    ["@id", "@id_1", "@P2", "@P2_3"] := by
  rfl

end Allocator

end BindPlan
