import BindPlan.MySql.Protocol
import Mathlib.Data.List.Basic

namespace BindPlan.MySql

/-- The reason why a bind value has no argument: it is an array or a collection, or a null of an array
type. -/
def refusal? : BindValue → Option BindingRefusal
  | .value (.array items) => some (.collection (.array items))
  | .value (.list items) => some (.collection (.list items))
  | .value (.tuple items) => some (.collection (.tuple items))
  | .null (.array _) => some .arrayNull
  | _ => none

namespace Scalar

/-- The scalar of a bind value. -/
def ofBindValue : BindValue → Except BindingRefusal Scalar
  | .value value => ofValue value
  | .null declared => ofNull declared

/-- A bind value has a scalar unless it is refused. -/
theorem ofBindValue_cases (value : BindValue) :
    (∃ refusal, refusal? value = some refusal ∧ ofBindValue value = .error refusal) ∨
      refusal? value = none ∧ ∃ scalar, ofBindValue value = .ok scalar := by
  cases value with
  | value content =>
      cases content with
      | array items => exact .inl ⟨_, rfl, rfl⟩
      | list items => exact .inl ⟨_, rfl, rfl⟩
      | tuple items => exact .inl ⟨_, rfl, rfl⟩
      | _ => exact .inr ⟨rfl, _, rfl⟩
  | null declared =>
      cases declared with
      | array element => exact .inl ⟨_, rfl, rfl⟩
      | _ => exact .inr ⟨rfl, _, rfl⟩

end Scalar

/-- A marker's target with what the marker receives, as they are offered to the sink. -/
structure Offer where
  target : Target
  value : BindValue

namespace Collected

/-- The outcome of an offer with the next state of the sink. -/
def offer (collected : Collected) (encoder : Encoder) (offer : Offer) :
    Except Error Unit × Collected :=
  (argumentSink encoder).bind collected offer.target offer.value

/-- The sink after a row of offers, whatever their outcomes are. -/
def run (collected : Collected) (encoder : Encoder) (offers : List Offer) : Collected :=
  offers.foldl (fun reached offer => (reached.offer encoder offer).2) collected

/-- The reason why a target that is not the next position is refused. -/
def misplaced (collected : Collected) : Target → BindingRefusal
  | .index position => .outOfOrder position collected.position
  | .name name => .namedTarget name

/-- What becomes of an offer: its argument is added, or its position is spent on a value without an
argument, or it is turned away and changes nothing. -/
inductive Answered (collected : Collected) (encoder : Encoder) (offer : Offer) :
    Except Error Unit × Collected → Prop
  | added {scalar : Scalar} (next : offer.target = .index collected.position)
      (accepted : refusal? offer.value = none)
      (taken : Scalar.ofBindValue offer.value = .ok scalar) :
      Answered collected encoder offer
        (.ok (), ⟨collected.arguments ++ [encoder.encode scalar], collected.position + 1⟩)
  | spent {refusal : BindingRefusal} (next : offer.target = .index collected.position)
      (refused : refusal? offer.value = some refusal) :
      Answered collected encoder offer
        (.error (.unsupportedBinding refusal), ⟨collected.arguments, collected.position + 1⟩)
  | turnedAway (elsewhere : offer.target ≠ .index collected.position) :
      Answered collected encoder offer
        (.error (.unsupportedBinding (collected.misplaced offer.target)), collected)

section Offers

variable (encoder : Encoder)

theorem bind_argumentSink (collected : Collected) (target : Target) (value : BindValue) :
    (argumentSink encoder).bind collected target value =
      collected.add target (encoder.encode <$> Scalar.ofBindValue value) := by
  cases value <;> rfl

theorem advance_next (collected : Collected) :
    collected.advance (.index collected.position) =
      .ok ⟨collected.arguments, collected.position + 1⟩ := if_pos rfl

theorem advance_elsewhere {collected : Collected} {target : Target}
    (elsewhere : target ≠ .index collected.position) :
    collected.advance target = .error (collected.misplaced target) := by
  cases target with
  | name name => rfl
  | index position =>
      rw [advance, if_neg]
      · rfl
      · rintro rfl
        exact elsewhere rfl

theorem answered (collected : Collected) (offer : Offer) :
    Answered collected encoder offer (collected.offer encoder offer) := by
  rw [Collected.offer, bind_argumentSink, add]
  by_cases next : offer.target = .index collected.position
  · rw [next, advance_next]
    rcases Scalar.ofBindValue_cases offer.value with
      ⟨refusal, refused, fails⟩ | ⟨accepted, scalar, taken⟩
    · rw [fails]
      exact .spent next refused
    · rw [taken]
      exact .added next accepted taken
  · rw [advance_elsewhere next]
    exact .turnedAway next

/-- The number of offers in a row that come at their position with a value that has no argument. -/
def spentBy (collected : Collected) (encoder : Encoder) : List Offer → Nat
  | [] => 0
  | offer :: rest =>
      (if offer.target = .index collected.position ∧ (refusal? offer.value).isSome then 1 else 0)
        + spentBy (collected.offer encoder offer).2 encoder rest

/-- An offer adds an argument, spends a position or changes nothing. -/
theorem position_offer (collected : Collected) (offer : Offer) :
    (collected.offer encoder offer).2.position + collected.arguments.length =
      (collected.offer encoder offer).2.arguments.length + collected.position +
        if offer.target = .index collected.position ∧ (refusal? offer.value).isSome then 1 else 0 := by
  have answer := collected.answered encoder offer
  generalize collected.offer encoder offer = outcome at answer
  cases answer with
  | added next accepted encoded =>
      rw [if_neg (by simp [accepted])]
      simp only [List.length_append, List.length_singleton]
      omega
  | spent next refused =>
      rw [if_pos ⟨next, Option.isSome_of_eq_some refused⟩]
      dsimp only
      omega
  | turnedAway elsewhere =>
      rw [if_neg fun both => elsewhere both.1]
      dsimp only
      omega

theorem position_run (collected : Collected) (offers : List Offer) :
    (collected.run encoder offers).position + collected.arguments.length =
      (collected.run encoder offers).arguments.length + collected.position
        + collected.spentBy encoder offers := by
  induction offers generalizing collected with
  | nil => exact Nat.add_comm _ _
  | cons offer rest inductionHypothesis =>
      have first := collected.position_offer encoder offer
      have following := inductionHypothesis (collected.offer encoder offer).2
      rw [spentBy]
      change ((collected.offer encoder offer).2.run encoder rest).position + _ =
        ((collected.offer encoder offer).2.run encoder rest).arguments.length + _ + _
      omega

/-- The position never falls. -/
theorem position_le_run (collected : Collected) (offers : List Offer) :
    collected.position ≤ (collected.run encoder offers).position := by
  induction offers generalizing collected with
  | nil => exact Nat.le_refl _
  | cons offer rest inductionHypothesis =>
      refine Nat.le_trans ?_ (inductionHypothesis (collected.offer encoder offer).2)
      have answer := collected.answered encoder offer
      generalize collected.offer encoder offer = outcome at answer
      cases answer with
      | added | spent => exact Nat.le_succ _
      | turnedAway => exact Nat.le_refl _

variable {encoder}

/-- What a failed offer does to the sink. The arguments stay. The sink stays as a whole where the marker
is not the next one, and else the position counts on and is lost to all later offers. -/
structure Failed (collected : Collected) (encoder : Encoder) (offer : Offer) : Prop where
  arguments : (collected.offer encoder offer).2.arguments = collected.arguments
  unchanged : (collected.offer encoder offer).2 = collected ↔ offer.target ≠ .index collected.position
  position : offer.target = .index collected.position →
    (collected.offer encoder offer).2.position = collected.position + 1
  lost : offer.target = .index collected.position → ∀ others value,
    let reached := (collected.offer encoder offer).2.run encoder others
    reached.offer encoder ⟨offer.target, value⟩ = (.error (.unsupportedBinding
      (.outOfOrder collected.position reached.position)), reached)

theorem offer_behind {collected : Collected} {position : Nat} (behind : position < collected.position)
    (value : BindValue) :
    collected.offer encoder ⟨.index position, value⟩ =
      (.error (.unsupportedBinding (.outOfOrder position collected.position)), collected) := by
  have elsewhere : Target.index position ≠ .index collected.position := by
    rintro same
    cases same
    exact Nat.lt_irrefl _ behind
  rw [Collected.offer, bind_argumentSink, add, advance_elsewhere elsewhere]
  rfl

theorem failed_of_error {collected : Collected} {offer : Offer} {error : Error}
    (fails : (collected.offer encoder offer).1 = .error error) : Failed collected encoder offer := by
  have answer := collected.answered encoder offer
  generalize reached : collected.offer encoder offer = outcome at answer fails
  cases answer with
  | added => cases fails
  | turnedAway elsewhere =>
      refine ⟨?_, ?_, fun next => absurd next elsewhere, fun next => absurd next elsewhere⟩
      · rw [reached]
      · rw [reached]
        exact iff_of_true rfl elsewhere
  | spent next refused =>
      have position : (collected.offer encoder offer).2.position = collected.position + 1 := by
        rw [reached]
      refine ⟨by rw [reached], ?_, fun _ => position, ?_⟩
      · refine iff_of_false ?_ (not_not_intro next)
        intro same
        rw [same] at position
        exact Nat.succ_ne_self _ position.symm
      · intro _ others value
        have counted := (collected.offer encoder offer).2.position_le_run encoder others
        rw [position] at counted
        rw [next]
        exact offer_behind counted value

end Offers

/-- After any row of offers the position counts the arguments and the positions that were spent on values
without an argument. An offer that fails never changes the arguments, and changes nothing at all exactly
where its marker is not the next one. -/
theorem run_position (encoder : Encoder) (offers : List Offer) :
    let reached := Collected.run {} encoder offers
    reached.position = reached.arguments.length + spentBy {} encoder offers ∧
      (reached.position = reached.arguments.length ↔ spentBy {} encoder offers = 0) ∧
      ∀ offer error, (reached.offer encoder offer).1 = .error error → Failed reached encoder offer := by
  intro reached
  have counted : reached.position = reached.arguments.length + spentBy {} encoder offers :=
    position_run encoder {} offers
  refine ⟨counted, ?_, fun offer error fails => failed_of_error fails⟩
  omega

/-- An empty list is refused for the first position, and then an integer is refused for it as well. The
position is one and there is no argument. -/
theorem run_position_spent :
    let list : Offer := ⟨.index 0, .value (.list [])⟩
    let reached := Collected.run {} .binary [list]
    (Collected.offer {} .binary list).1 = .error (.unsupportedBinding (.collection (.list []))) ∧
      reached.position = 1 ∧ reached.arguments = [] ∧
      (reached.offer .binary ⟨.index 0, .value (.int 1)⟩).1 =
        .error (.unsupportedBinding (.outOfOrder 0 1)) :=
  ⟨rfl, rfl, rfl, rfl⟩

end Collected

end BindPlan.MySql
