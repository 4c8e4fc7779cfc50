import BindPlan.Proofs.Outcome
import BindPlan.Proofs.Template.Rendering
import BindPlan.Proofs.Text.Utf8

namespace BindPlan

namespace Text

end Text

namespace Template

theorem occurrencesFrom_bounds {position : Nat} {tokens : List Token} :
    ∀ occurrence ∈ occurrencesFrom position tokens,
      position ≤ occurrence.start ∧ occurrence.start ≤ occurrence.stop := by
  induction tokens generalizing position with
  | nil => simp [occurrencesFrom]
  | cons token rest inductionHypothesis =>
      intro occurrence member
      rw [occurrencesFrom] at member
      cases named : token.name? with
      | none =>
          rw [named] at member
          have bounds := inductionHypothesis occurrence member
          omega
      | some name =>
          rw [named] at member
          rcases List.mem_cons.mp member with rfl | member
          · exact ⟨Nat.le_refl _, Nat.le_add_right _ _⟩
          · have bounds := inductionHypothesis occurrence member
            omega

theorem names_occurrencesFrom (position : Nat) (tokens : List Token) :
    (occurrencesFrom position tokens).map Occurrence.name = tokens.filterMap Token.name? := by
  induction tokens generalizing position with
  | nil => rfl
  | cons token rest inductionHypothesis =>
      rw [occurrencesFrom, List.filterMap_cons]
      cases token.name? with
      | none => exact inductionHypothesis _
      | some name => exact congrArg (name :: ·) (inductionHypothesis _)

end Template

namespace Expansion

/-- The piece of a token: its text, or markers for the value of its name. -/
def Placed (source : Source) (token : Template.Token) (piece : Piece) : Prop :=
  match token.name? with
  | none => piece = .text token.output
  | some name => ∃ fragment, piece = .parameter name fragment ∧
      fragment.markers.length = width (source.value? name) ∧
      fragment.sql = rendering (source.value? name) (fragment.markers.map Marker.placeholder)

theorem placeToken_hands {source : Source} {token : Template.Token} {start finish : Allocator}
    {piece : Piece} (places : placeToken source token start = .ok (piece, finish)) :
    Placed source token piece ∧ start.Hands piece.fragment.markers finish := by
  rw [placeToken] at places
  rw [Placed]
  cases named : token.name? with
  | none =>
      rw [named] at places
      cases places
      exact ⟨rfl, .none start⟩
  | some name =>
      rw [named] at places
      obtain ⟨taken, grouped, places⟩ := bind_eq_ok.mp places
      obtain ⟨rows, fits, placed, hands⟩ := placeGroups_hands name taken start
      generalize (placeGroups name taken).run start = outcome at places placed hands
      obtain ⟨fragment, last⟩ := outcome
      cases places
      change fragment = _ at placed
      have markers : fragment.markers = rows.flatten := by
        rw [placed, Fragment.markers_joined, markers_zipWith_write fits]
      rw [Piece.fragment, markers]
      refine ⟨⟨fragment, rfl, ?_⟩, hands⟩
      rw [markers, placed]
      exact written_rendering grouped fits

/-- What holds of the piece of each token, with an allocator of the style, holds of all of them. -/
theorem forall₂_placeTokens {source : Source} {style : MarkerStyle}
    {related : Template.Token → Piece → Prop}
    (each : ∀ {token start piece finish}, start.style = style →
      placeToken source token start = .ok (piece, finish) → related token piece)
    {tokens : List Template.Token} {start : Allocator} {pieces : List Piece}
    (styled : start.style = style) (places : placeTokens source tokens start = .ok pieces) :
    List.Forall₂ related tokens pieces := by
  induction tokens generalizing start pieces with
  | nil =>
      cases places
      exact .nil
  | cons token rest inductionHypothesis =>
      obtain ⟨⟨piece, between⟩, head, places⟩ := bind_eq_ok.mp places
      obtain ⟨others, tail, places⟩ := bind_eq_ok.mp places
      cases places
      have kept : between.style = style := (placeToken_hands head).2.style.trans styled
      exact .cons (each styled head) (inductionHypothesis kept tail)

/-- The markers of the pieces are handed out in their order. -/
theorem placeTokens_hands {source : Source} {tokens : List Template.Token} {start : Allocator}
    {pieces : List Piece} (places : placeTokens source tokens start = .ok pieces) :
    List.Forall₂ (Placed source) tokens pieces ∧
      ∃ finish, start.Hands (pieces.flatMap fun piece => piece.fragment.markers) finish := by
  induction tokens generalizing start pieces with
  | nil =>
      cases places
      exact ⟨.nil, start, .none start⟩
  | cons token rest inductionHypothesis =>
      obtain ⟨⟨piece, between⟩, head, places⟩ := bind_eq_ok.mp places
      obtain ⟨others, tail, places⟩ := bind_eq_ok.mp places
      cases places
      obtain ⟨placed, hands⟩ := placeToken_hands head
      obtain ⟨placedRest, finish, handsRest⟩ := inductionHypothesis tail
      exact ⟨.cons placed placedRest, finish, hands.append handsRest⟩

/-- What stands in the text for the occurrences of an expansion. -/
def renderings (source : Source) (occurrences : List (String × List Marker)) : List String :=
  occurrences.map fun occurrence =>
    rendering (source.value? occurrence.1) (occurrence.2.map Marker.placeholder)

/-- An occurrence has as many markers as the value in the source asks for. -/
structure Counted (source : Source) (occurrence : Template.Occurrence)
    (entry : String × List Marker) : Prop where
  name : entry.1 = occurrence.name
  width : entry.2.length = width (source.value? occurrence.name)

/-- Each occurrence of the template has its markers in the expansion. -/
theorem occurrences_placed {source : Source} {tokens : List Template.Token} {pieces : List Piece}
    (placed : List.Forall₂ (Placed source) tokens pieces) (position : Nat)
    (supplied : List (String × BindValue)) :
    List.Forall₂ (Counted source) (Template.occurrencesFrom position tokens)
      (Expansion.mk pieces supplied).occurrences := by
  induction placed generalizing position with
  | nil => exact .nil
  | @cons token piece tokens pieces head rest inductionHypothesis =>
      have others := inductionHypothesis (position + Text.byteLength token.output)
      rw [Template.occurrencesFrom]
      rw [Placed] at head
      cases named : token.name? with
      | none =>
          rw [named] at head
          subst head
          exact others
      | some name =>
          rw [named] at head
          obtain ⟨fragment, rfl, long, _⟩ := head
          exact .cons ⟨rfl, long⟩ others

/-- The markers of the occurrences are all the markers of an expansion. -/
theorem markers_occurrences (expansion : Expansion) :
    expansion.fragment.markers = expansion.occurrences.flatMap Prod.snd := by
  obtain ⟨pieces, supplied⟩ := expansion
  rw [fragment]
  induction pieces with
  | nil => rfl
  | cons piece rest inductionHypothesis =>
      rw [List.flatMap_cons, Fragment.markers_append, inductionHypothesis]
      cases piece <;> rfl

end Expansion

end BindPlan
