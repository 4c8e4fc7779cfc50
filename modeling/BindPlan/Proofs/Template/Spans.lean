import BindPlan.Proofs.Template.Cursor
import BindPlan.Proofs.Template.Leading
import BindPlan.Proofs.Template.Splice
import BindPlan.Template.Slicing

namespace BindPlan

open Text

namespace Template

/-- A parameter token has a name. -/
def Token.Named : Token → Prop
  | parameter _ name => name ≠ []
  | _ => True

theorem Token.Leads.filled {text rest : List Char} {token : Token} (leads : Leads text token rest) :
    token.Named := by
  cases leads with
  | braces filled | colon filled | ampersand filled => exact filled
  | _ => trivial

theorem scan_named {position : Nat} {text : List Char} {tokens : List Token}
    (scans : scan position text = .ok tokens) : ∀ token ∈ tokens, token.Named := by
  intro token member
  obtain ⟨ahead, rest, leads⟩ := (scan_eq_ok_iff.mp scans).exists_leads token member
  exact leads.filled

/-- An occurrence comes before another, and no byte belongs to both. -/
structure Occurrence.Before (first second : Occurrence) : Prop where
  start : first.start < second.start
  disjoint : first.stop ≤ second.start

/-- The bytes of an occurrence are whole characters of the text, and they are its parameter in one of
the forms in which a parameter is written. -/
structure Occurrence.Spans (text : String) (occurrence : Occurrence) : Prop where
  filled : occurrence.start < occurrence.stop
  inside : occurrence.stop ≤ text.utf8ByteSize
  start : String.Pos.Raw.IsValid text ⟨occurrence.start⟩
  stop : String.Pos.Raw.IsValid text ⟨occurrence.stop⟩
  named : occurrence.name ≠ ""
  written : String.Pos.Raw.extract text ⟨occurrence.start⟩ ⟨occurrence.stop⟩ ∈
    [":" ++ occurrence.name, "&" ++ occurrence.name, ":\x7b" ++ occurrence.name ++ "\x7d"]

/-- The output of a parameter token behind a front of the text. -/
theorem spans_parameter (form : NameForm) {name : List Char} (named : name ≠ [])
    (front back : List Char) :
    Occurrence.Spans (String.ofList (front ++ Token.parameterText form name ++ back))
      ⟨String.ofList name, byteLength front,
        byteLength front + byteLength (Token.parameterText form name)⟩ where
  filled := by
    have lead : 0 < form.lead := by cases form <;> decide
    rw [form.parameterText_eq, byteLength_append, byteLength_append, form.byteLength_opening]
    simp only
    omega
  inside := by
    rw [utf8ByteSize_ofList, byteLength_append, byteLength_append]
    exact Nat.le_add_right _ _
  start := by
    rw [List.append_assoc]
    exact isValid_append front _
  stop := by
    rw [← byteLength_append]
    exact isValid_append (front ++ _) back
  named := by
    intro empty
    exact named (by simpa using congrArg String.toList empty)
  written := by
    rw [extract_append]
    cases form <;> simp [Token.parameterText, ← String.toList_inj]

/-- The occurrences of named tokens are spans of the text that the tokens stand for. -/
theorem spans_occurrencesFrom {tokens : List Token} (named : ∀ token ∈ tokens, token.Named)
    (front : List Char) :
    ∀ occurrence ∈ occurrencesFrom (byteLength front) tokens,
      occurrence.Spans (String.ofList (front ++ tokens.flatMap Token.output)) := by
  induction tokens generalizing front with
  | nil => simp [occurrencesFrom]
  | cons token rest inductionHypothesis =>
      have later := inductionHypothesis (fun other member => named other (.tail _ member))
        (front ++ token.output)
      rw [byteLength_append, List.append_assoc, ← List.flatMap_cons] at later
      intro occurrence member
      cases token with
      | parameter form name =>
          rcases List.mem_cons.mp member with rfl | member
          · rw [List.flatMap_cons, ← List.append_assoc]
            exact spans_parameter form (named _ List.mem_cons_self) front _
          · exact later occurrence member
      | _ => exact later occurrence member

/-- The occurrences of named tokens are in order and apart. -/
theorem before_occurrencesFrom {tokens : List Token} (named : ∀ token ∈ tokens, token.Named)
    (position : Nat) : (occurrencesFrom position tokens).Pairwise Occurrence.Before := by
  induction tokens generalizing position with
  | nil => exact .nil
  | cons token rest inductionHypothesis =>
      have later := inductionHypothesis (fun other member => named other (.tail _ member))
        (position + byteLength token.output)
      cases token with
      | parameter form name =>
          refine .cons ?_ later
          intro other member
          have behind := (occurrencesFrom_bounds other member).1
          have spans := (spans_parameter form (named _ List.mem_cons_self) [] []).filled
          simp only [byteLength_nil, Nat.zero_add] at spans
          exact ⟨by simp only [Token.output] at behind ⊢; omega, behind⟩
      | _ => exact later

end Template

namespace Expansion

/-- What is seen of pieces: the text and the markers of each occurrence. -/
def seen (pieces : List Piece) : String × List (String × List Marker) :=
  (Fragment.sql (pieces.flatMap Piece.fragment), (Expansion.mk pieces []).occurrences)

theorem seen_text (content : List Char) (pieces : List Piece) :
    seen (.text content :: pieces) =
      (String.ofList content ++ (seen pieces).1, (seen pieces).2) := by
  rw [seen, List.flatMap_cons, Piece.fragment, Fragment.sql_append, Fragment.sql_ofText]
  rfl

theorem seen_nothing : (fun pieces => seen (.text [] :: pieces)) = seen := by
  funext pieces
  rw [seen_text, String.ofList_nil, String.empty_append]

theorem seen_parameter (name : String) (fragment : Fragment) (pieces : List Piece) :
    seen (.parameter name fragment :: pieces) =
      (fragment.sql ++ (seen pieces).1, (name, fragment.markers) :: (seen pieces).2) := by
  rw [seen, List.flatMap_cons, Piece.fragment, Fragment.sql_append]
  rfl

/-- The slices between the occurrences exist, and with them the pieces look like those of the tokens.
The gap is text that was not taken yet. -/
theorem placeSlices_tokens (source : Source) (tokens : List Template.Token) (front gap : List Char)
    (allocator : Allocator) :
    ∃ outcome, placeSlices source
        (String.ofList (front ++ gap ++ tokens.flatMap Template.Token.output)) (byteLength front)
        (Template.occurrencesFrom (byteLength front + byteLength gap) tokens) allocator =
          some outcome ∧
      outcome.map seen =
        (placeTokens source tokens allocator).map fun pieces => seen (.text gap :: pieces) := by
  induction tokens generalizing front gap allocator with
  | nil =>
      have slice : slice? (String.ofList (front ++ gap ++ [])) (byteLength front)
          (String.ofList (front ++ gap ++ [])).utf8ByteSize = some (String.ofList gap) := by
        apply slice?_eq rfl rfl
        rw [utf8ByteSize_ofList, List.append_nil, byteLength_append]
      refine ⟨.ok [.text gap], ?_, rfl⟩
      rw [List.flatMap_nil, Template.occurrencesFrom, placeSlices, slice]
      simp
  | cons token rest inductionHypothesis =>
      rw [Template.occurrencesFrom, List.flatMap_cons]
      cases named : token.name? with
      | none =>
          obtain ⟨outcome, places, same⟩ :=
            inductionHypothesis front (gap ++ token.output) allocator
          refine ⟨outcome, ?_, ?_⟩
          · simpa [Nat.add_assoc] using places
          · rw [same, placeTokens_text named]
            cases placeTokens source rest allocator with
            | error error => rfl
            | ok pieces => simp [Except.map, seen_text, String.append_assoc]
      | some name =>
          have slice : slice? (String.ofList (front ++ gap ++
                (token.output ++ rest.flatMap Template.Token.output))) (byteLength front)
              (byteLength front + byteLength gap) = some (String.ofList gap) :=
            slice?_eq rfl rfl rfl
          rw [placeTokens_parameter named]
          dsimp only
          rw [placeSlices_cons slice]
          cases groups name (source.value? name) with
          | error error => exact ⟨.error error, rfl, rfl⟩
          | ok taken =>
              dsimp only [Except.bind]
              cases (placeGroups name taken).run allocator with
              | mk fragment next =>
                  -- The text of the rest stands behind the occurrence, without a gap in between.
                  obtain ⟨outcome, places, same⟩ :=
                    inductionHypothesis (front ++ gap ++ token.output) [] next
                  rw [List.append_nil, List.append_assoc (front ++ gap), byteLength_append,
                    byteLength_append, byteLength_nil, Nat.add_zero] at places
                  rw [places]
                  refine ⟨_, rfl, ?_⟩
                  rw [seen_nothing] at same
                  generalize placeTokens source rest next = others at same ⊢
                  cases outcome <;> cases others <;>
                    simp only [Except.map, Except.error.injEq, Except.ok.injEq, reduceCtorEq] at same ⊢
                  · exact same
                  · rw [seen_text, seen_text, seen_parameter, seen_parameter, same, String.toList_ofList]

/-- What is seen of an expansion: its text, the markers of each occurrence and the values known. -/
def observed (expansion : Expansion) :
    String × List (String × List Marker) × List (String × BindValue) :=
  (expansion.sql, expansion.occurrences, expansion.supplied)

/-- Every slice that is taken while a template is expanded exists, and cutting the rewritten text gives
the expansion. -/
theorem expandSlices_observed (template : Template) (style : MarkerStyle) (source : Source) :
    ∃ outcome, template.expandSlices style source = some outcome ∧
      outcome.map observed = (template.expand style source).map observed := by
  obtain ⟨outcome, places, same⟩ :=
    placeSlices_tokens source template.tokens [] [] style.allocator
  simp only [List.nil_append, byteLength_nil, Nat.add_zero] at places
  rw [Template.expandSlices, Template.expand]
  have whole : template.rewritten = String.ofList (template.tokens.flatMap Template.Token.output) := rfl
  rw [whole, Template.occurrences, places]
  refine ⟨_, rfl, ?_⟩
  rw [seen_nothing] at same
  generalize Expansion.placeTokens source template.tokens style.allocator = pieces at same ⊢
  cases outcome <;> cases pieces <;>
    simp only [Except.map, Except.error.injEq, Except.ok.injEq, reduceCtorEq] at same
  · exact congrArg Except.error same
  · obtain ⟨text, markers⟩ := Prod.mk.inj same
    exact congrArg Except.ok (Prod.ext text (Prod.ext markers rfl))

end Expansion

namespace Template

/-- A text is read without a slice that does not exist. The occurrences of its template are in order,
apart, and spans of the rewritten text, and so the template is expanded without such a slice. -/
theorem parse_spans (text : String) :
    Cursor.read text =
        some ((parse text).map fun template => (template.rewritten, template.occurrences)) ∧
      ∀ template, parse text = .ok template →
        template.occurrences.Pairwise Occurrence.Before ∧
        (∀ occurrence ∈ template.occurrences, occurrence.Spans template.rewritten) ∧
        ∀ style source, ∃ outcome, template.expandSlices style source = some outcome ∧
          outcome.map Expansion.observed = (template.expand style source).map Expansion.observed := by
  refine ⟨Cursor.read_eq_parse text, ?_⟩
  intro template parses
  obtain ⟨tokens, scans, rfl⟩ := map_eq_ok.mp parses
  have named := scan_named scans
  refine ⟨before_occurrencesFrom named 0, ?_, ?_⟩
  · exact spans_occurrencesFrom named []
  · exact Expansion.expandSlices_observed _

/-- Behind an escape and a quoted literal with characters of two bytes, names of three bytes a
character are spans. -/
theorem parse_spans_wide :
    let text := "\\:ü, ':x', :\x7b名 b\x7dé&前"
    let template : Template := ⟨[.escapedColon, .plain ['ü'], .plain [','], .plain [' '],
      .region "':x'".toList, .plain [','], .plain [' '], .parameter .braces "名 b".toList,
      .plain ['é'], .parameter .ampersand ['前']]⟩
    parse text = .ok template ∧
      template.occurrences = [⟨"名 b", 11, 19⟩, ⟨"前", 21, 25⟩] ∧
      ∀ occurrence ∈ template.occurrences, occurrence.Spans template.rewritten := by
  intro text template
  have parses : parse text = .ok template := by decide +kernel
  exact ⟨parses, by rfl, ((parse_spans text).2 template parses).2.1⟩

end Template

end BindPlan
