import BindPlan.Proofs.Marker.Spelling
import BindPlan.Proofs.Template.Alignment
import BindPlan.Proofs.Template.Stretches

/-!
What expansion inserts into a text. Placeholders, and the commas and parentheses between them, hold no
sign of an opener, so the regions of an expanded text are those of its template. Where all placeholders
are question marks, those outside the regions are placeholders.
-/

namespace BindPlan

namespace Template

/-- Letters and digits of ASCII and underscores are in no opener. -/
theorem Neutral.ofNameChar {char : Char} (valid : Allocator.isNameChar char = true) : Neutral char := by
  rw [neutral_iff]
  intro sign
  fin_cases sign <;> revert valid <;> decide

/-- The character stands in regions and in parameters alone. -/
def Free (template : Template) (sign : Char) : Prop :=
  ∀ token ∈ template.tokens, sign ∈ token.source →
    (∃ text, token = .region text) ∨ ∃ form name, token = .parameter form name

end Template

namespace Expansion

open Template Text

variable {style : MarkerStyle} {dialect : Dialect} {fragment : Fragment}

/-- The part may be inserted for a parameter: it is a marker of the style, or stands between markers. -/
def Inserted (style : MarkerStyle) : Fragment.Part → Prop
  | .text content => content ∈ ["(", ")", ", "]
  | .slot marker => style.HandsOut marker

theorem inserted_joined {fragments : List Fragment}
    (inserted : ∀ fragment ∈ fragments, ∀ part ∈ fragment, Inserted style part) :
    ∀ part ∈ Fragment.joined ", " fragments, Inserted style part := by
  intro part member
  rcases Fragment.mem_joined member with rfl | ⟨fragment, among, inside⟩
  · show ", " ∈ ["(", ")", ", "]
    decide
  · exact inserted fragment among part inside

theorem inserted_write {group : Group} {row : List Marker}
    (handed : ∀ marker ∈ row, style.HandsOut marker) :
    ∀ part ∈ group.write row, Inserted style part := by
  have markers : ∀ part ∈ Fragment.joined ", " (row.map Fragment.ofMarker), Inserted style part := by
    apply inserted_joined
    intro fragment member part inside
    obtain ⟨marker, among, rfl⟩ := List.mem_map.mp member
    obtain rfl := List.mem_singleton.mp inside
    exact handed marker among
  cases group with
  | plain count => exact markers
  | row count =>
      intro part member
      rw [Group.write, List.mem_append, List.mem_append] at member
      rcases member with (opening | inside) | closing
      · obtain rfl := List.mem_singleton.mp opening
        show "(" ∈ ["(", ")", ", "]
        decide
      · exact markers part inside
      · obtain rfl := List.mem_singleton.mp closing
        show ")" ∈ ["(", ")", ", "]
        decide

/-- A group that is not empty is written somehow. -/
def Group.Visible : Group → Prop
  | .plain count => count ≠ 0
  | .row _ => True

theorem groups_visible {name : String} {value : Option Value} {taken : List Group}
    (grouped : groups name value = .ok taken) :
    taken ≠ [] ∧ ∀ group ∈ taken, group.Visible := by
  rcases groups_cases grouped with ⟨item, rest, rfl, rfl⟩ | ⟨_, rfl, filled⟩
  · refine ⟨List.cons_ne_nil _ _, fun group member => ?_⟩
    obtain ⟨element, _, rfl⟩ := List.mem_map.mp member
    rw [Group.ofElement]
    cases element.row? with
    | none => exact Nat.one_ne_zero
    | some row => trivial
  · refine ⟨List.cons_ne_nil _ _, fun group member => ?_⟩
    obtain rfl := List.mem_singleton.mp member
    exact filled

theorem write_ne_nil {group : Group} {row : List Marker} (visible : group.Visible)
    (fits : Fits group row) : group.write row ≠ [] := by
  cases group with
  | plain count =>
      cases row with
      | nil => exact absurd fits.symm visible
      | cons marker row => exact Fragment.joined_ne_nil (List.cons_ne_nil _ _) _ _
  | row count => simp [Group.write, Fragment.ofText]

/-- Groups that are all visible are written somehow, with parts that may be inserted. -/
theorem inserted_groups {taken : List Group} {rows : List (List Marker)}
    (visible : taken ≠ [] ∧ ∀ group ∈ taken, group.Visible) (fits : List.Forall₂ Fits taken rows)
    (handed : ∀ marker ∈ rows.flatten, style.HandsOut marker) :
    Fragment.joined ", " (List.zipWith Group.write taken rows) ≠ [] ∧
      ∀ part ∈ Fragment.joined ", " (List.zipWith Group.write taken rows), Inserted style part := by
  refine ⟨?_, inserted_joined ?_⟩
  · cases fits with
    | nil => exact absurd rfl visible.1
    | cons head rest =>
        exact Fragment.joined_ne_nil (write_ne_nil (visible.2 _ List.mem_cons_self) head) _ _
  · clear visible
    induction fits with
    | nil => simp
    | @cons group row taken rows head rest inductionHypothesis =>
        rw [List.flatten_cons, List.forall_mem_append] at handed
        rw [List.zipWith_cons_cons, List.forall_mem_cons]
        exact ⟨inserted_write handed.1, inductionHypothesis handed.2⟩

/-- The piece may take the place of the token. -/
inductive Replaces (style : MarkerStyle) : Token → Piece → Prop
  | text {token : Token} (text : token.name? = none) : Replaces style token (.text token.output)
  | parameter (form : NameForm) (name : List Char) {fragment : Fragment} (filled : fragment ≠ [])
      (inserted : ∀ part ∈ fragment, Inserted style part) :
      Replaces style (.parameter form name) (.parameter (String.ofList name) fragment)

theorem placeToken_replaces {source : Source} {token : Token} {start finish : Allocator} {piece : Piece}
    (styled : start.style = style) (places : placeToken source token start = .ok (piece, finish)) :
    Replaces style token piece := by
  subst styled
  rw [placeToken] at places
  cases token with
  | parameter form name =>
      obtain ⟨taken, grouped, places⟩ := bind_eq_ok.mp places
      obtain ⟨rows, fits, placed, hands⟩ := placeGroups_hands (String.ofList name) taken start
      generalize (placeGroups (String.ofList name) taken).run start = outcome at places placed hands
      obtain ⟨fragment, last⟩ := outcome
      cases places
      obtain ⟨filled, inserted⟩ := inserted_groups (groups_visible grouped) fits hands.handsOut
      rw [← placed] at filled inserted
      exact .parameter form name filled inserted
  | _ =>
      cases places
      exact .text rfl

theorem placeTokens_replaces {source : Source} {tokens : List Token} {start : Allocator}
    {pieces : List Piece} (places : placeTokens source tokens start = .ok pieces) :
    List.Forall₂ (Replaces start.style) tokens pieces :=
  forall₂_placeTokens placeToken_replaces rfl places

/-- What a dialect inserts is visible and holds no sign of an opener. -/
theorem Inserted.neutral {part : Fragment.Part} (inserted : Inserted dialect.markerStyle part) :
    part.sql.toList ≠ [] ∧ ∀ char ∈ part.sql.toList, Neutral char := by
  cases part with
  | text content =>
      have each : ∀ content ∈ ["(", ")", ", "],
          content.toList ≠ [] ∧ ∀ char ∈ content.toList, Neutral char := by
        simp [neutral_iff]
      exact each content inserted
  | slot marker =>
      refine ⟨Dialect.placeholder_ne_nil inserted, fun char member => ?_⟩
      rcases Dialect.placeholder_chars inserted char member with sign | valid
      · have signs : ∀ char ∈ ['$', '?', '@', ':'], Neutral char := by simp [neutral_iff]
        exact signs char sign
      · exact .ofNameChar valid

theorem Replaces.shown {token : Token} {piece : Piece}
    (replaces : Replaces dialect.markerStyle token piece) :
    token.Shown piece.fragment.sql.toList := by
  cases replaces with
  | @text token text =>
      rw [Piece.fragment, Fragment.sql_ofText, String.toList_ofList]
      cases token with
      | parameter form name => cases text
      | _ => rfl
  | parameter form name filled inserted =>
      rw [Piece.fragment, Fragment.toList_sql]
      refine ⟨?_, fun char member => ?_⟩
      · obtain ⟨part, rest, rfl⟩ := List.exists_cons_of_ne_nil filled
        rw [List.flatMap_cons]
        exact List.append_ne_nil_of_left_ne_nil (inserted part List.mem_cons_self).neutral.1 _
      · obtain ⟨part, among, inside⟩ := List.mem_flatMap.mp member
        exact (inserted part among).neutral.2 char inside

/-- The text of a piece in an expanded text. -/
def Piece.chars (piece : Piece) : List Char := piece.fragment.sql.toList

theorem Piece.chars_text (content : List Char) : Piece.chars (.text content) = content := by
  rw [Piece.chars, Piece.fragment, Fragment.sql_ofText, String.toList_ofList]

theorem flatten_chars (pieces : List Piece) :
    (pieces.map Piece.chars).flatten = (Fragment.sql (pieces.flatMap Piece.fragment)).toList := by
  rw [Fragment.toList_sql, List.flatMap_assoc, List.flatMap_def]
  congr 2
  funext piece
  exact Fragment.toList_sql piece.fragment

/-- The stretches of the pieces are those of the tokens that they take the places of. -/
theorem stretches_pieces {text : List Char} {tokens : List Token} {pieces : List Piece}
    (scanned : scan 0 text = .ok tokens)
    (replaced : List.Forall₂ (Replaces dialect.markerStyle) tokens pieces) :
    List.Forall₂ Token.Shown tokens (pieces.map Piece.chars) ∧
      stretches (Fragment.sql (pieces.flatMap Piece.fragment)).toList =
        (List.zipWith Token.stretches tokens (pieces.map Piece.chars)).flatten := by
  have shown : List.Forall₂ Token.Shown tokens (pieces.map Piece.chars) := by
    rw [List.forall₂_map_right_iff]
    exact replaced.imp fun _ _ replaces => replaces.shown
  rw [← flatten_chars]
  exact ⟨shown, stretches_shown (scan_eq_ok_iff.mp scanned) shown⟩

section QuestionMarks

/-- Of what is inserted, the question marks are the placeholders. -/
theorem sitesFrom_inserted (inserted : ∀ part ∈ fragment, Inserted (.anonymous "?") part)
    (position : Nat) :
    sitesFrom '?' position (fragment.sql.toList.map .bare) = fragment.slotsFrom position := by
  induction fragment generalizing position with
  | nil => rfl
  | cons part rest inductionHypothesis =>
      rw [List.forall_mem_cons] at inserted
      obtain ⟨first, others⟩ := inserted
      rw [Fragment.toList_sql, List.flatMap_cons, ← Fragment.toList_sql, List.map_append,
        sitesFrom_bare, inductionHypothesis others]
      cases part with
      | text content =>
          have absent : ∀ content ∈ ["(", ")", ", "], '?' ∉ content.toList := by decide
          rw [Fragment.Part.sql, sitesFrom_absent (absent content first)]
          rfl
      | slot marker =>
          obtain ⟨allocator, hint, anonymous, rfl⟩ := first
          have placeholder : (allocator.allocate hint).1.placeholder = "?" := by
            simp [Allocator.allocate, anonymous]
          rw [Fragment.slotsFrom, Fragment.Part.sql, placeholder]
          rfl

theorem sites_piece {token : Token} {piece : Piece} (replaces : Replaces (.anonymous "?") token piece)
    (free : '?' ∈ token.source →
      (∃ text, token = .region text) ∨ ∃ form name, token = .parameter form name)
    (position : Nat) (rest : List Stretch) :
    sitesFrom '?' position (token.stretches piece.chars ++ rest) =
      piece.fragment.slotsFrom position ++
        sitesFrom '?' (position + byteLength piece.chars) rest := by
  -- Outside the regions it is enough to look at what stands in place of the token itself.
  have bare (sites : sitesFrom '?' position (piece.chars.map .bare) =
      piece.fragment.slotsFrom position) :
      sitesFrom '?' position (piece.chars.map .bare ++ rest) =
        piece.fragment.slotsFrom position ++
          sitesFrom '?' (position + byteLength piece.chars) rest := by
    rw [sitesFrom_bare, sites]
  cases replaces with
  | @text token copied =>
      rw [Piece.chars_text] at bare ⊢
      cases token with
      | region text => rfl
      | plain text =>
          have absent : '?' ∉ text := by
            intro inside
            rcases free inside with ⟨_, same⟩ | ⟨_, _, same⟩ <;> cases same
          exact bare (sitesFrom_absent absent position)
      | escapedColon => exact bare (sitesFrom_absent (by decide) position)
      | parameter form name => cases copied
  | parameter form name filled inserted => exact bare (sitesFrom_inserted inserted position)

theorem sites_pieces {tokens : List Token} {pieces : List Piece}
    (replaced : List.Forall₂ (Replaces (.anonymous "?")) tokens pieces)
    (free : (Template.mk tokens).Free '?') (position : Nat) :
    sitesFrom '?' position (List.zipWith Token.stretches tokens (pieces.map Piece.chars)).flatten =
      Fragment.slotsFrom position (pieces.flatMap Piece.fragment) := by
  induction replaced generalizing position with
  | nil => rfl
  | @cons token piece tokens pieces head rest inductionHypothesis =>
      rw [Free, List.forall_mem_cons] at free
      rw [List.map_cons, List.zipWith_cons_cons, List.flatten_cons, sites_piece head free.1,
        inductionHypothesis free.2, List.flatMap_cons, Fragment.slotsFrom_append, Piece.chars]

end QuestionMarks

/-- Whatever calls were made, the finished statement has the text of the expansion, and a binding for
each marker in it. -/
theorem finish_markers {template : Template} {source : Source} {expansion : Expansion}
    {calls : List Call} {prepared : Prepared} (expanded : template.expand style source = .ok expansion)
    (finished : (expansion.run calls).finish = .ok prepared) :
    prepared.fragment = expansion.fragment ∧
      prepared.fragment.markers = prepared.bindings.markers := by
  obtain ⟨bindings, binds, done⟩ := bind_eq_ok.mp finished
  cases done
  obtain ⟨chunks, rfl, bound⟩ := bindOccurrences_fills binds
  have same : (expansion.run calls).fragment = expansion.fragment := by
    rw [fragment, pieces_run, fragment]
  refine ⟨same, ?_⟩
  have placed : List.Forall₂ (Placed source) template.tokens (expansion.run calls).pieces := by
    rw [pieces_run]
    exact (expand_placed expanded).1
  obtain ⟨_, inOrder, _⟩ :=
    filled_of_counted (occurrences_placed placed 0 (expansion.run calls).supplied) bound
      fun _ _ => rfl
  rw [markers_occurrences, Bindings.markers, List.map_flatten, ← List.flatMap_def]
  exact inOrder.symm

end Expansion

namespace Template

open Expansion

/-- Expansion keeps the literals and comments of a template and makes no others. Where placeholders are
question marks and the text has none outside its literals, comments and parameters, the question marks
there in the expanded text are the placeholders, one for each binding of the finished statement. -/
theorem expand_regions {text : String} {template : Template} {dialect : Dialect} {source : Source}
    {expansion : Expansion} (parsed : parse text = .ok template)
    (expanded : template.expand dialect.markerStyle source = .ok expansion) :
    regionsOf expansion.sql = template.regions ∧
      (dialect = .mysql ∨ dialect = .sqlite → template.Free '?' →
        sitesOf '?' expansion.sql = expansion.fragment.slots ∧
          ∀ calls prepared, (expansion.run calls).finish = .ok prepared →
            prepared.sql = expansion.sql ∧ sitesOf '?' prepared.sql = prepared.fragment.slots ∧
              (sitesOf '?' prepared.sql).length = prepared.bindings.length) := by
  obtain ⟨tokens, scanned, rfl⟩ := map_eq_ok.mp parsed
  obtain ⟨pieces, places, done⟩ := bind_eq_ok.mp expanded
  cases done
  have replaced : List.Forall₂ (Replaces dialect.markerStyle) tokens pieces :=
    placeTokens_replaces places
  obtain ⟨shown, parts⟩ := stretches_pieces scanned replaced
  refine ⟨?_, fun marks free => ?_⟩
  · rw [regionsOf, Expansion.sql, Expansion.fragment, parts]
    exact regions_shown shown
  · have anonymous : dialect.markerStyle = .anonymous "?" := by
      rcases marks with rfl | rfl <;> rfl
    rw [anonymous] at replaced
    have sites : ∀ fragment : Fragment, fragment = pieces.flatMap Piece.fragment →
        sitesOf '?' fragment.sql = fragment.slots := by
      rintro fragment rfl
      rw [sitesOf, parts]
      exact sites_pieces replaced free 0
    refine ⟨sites _ rfl, fun calls prepared finished => ?_⟩
    obtain ⟨same, markers⟩ := finish_markers expanded finished
    have standing := sites prepared.fragment same
    refine ⟨congrArg Fragment.sql same, standing, ?_⟩
    calc (sitesOf '?' prepared.sql).length
      _ = prepared.fragment.slots.length := congrArg List.length standing
      _ = prepared.bindings.markers.length := by
          rw [Fragment.slots, Fragment.length_slotsFrom, markers]
      _ = prepared.bindings.length := List.length_map _

/-- A name in braces with a quote in it stands between a dash and a comment, and a slash stands in front of
a list. -/
theorem expand_regions_abutting :
    let text := "'a?' -:\x7bit's\x7d-- &b?\n\\:/&ids"
    let template : Template := ⟨[.region "'a?'".toList, .plain [' '], .plain ['-'],
      .parameter .braces "it's".toList, .region "-- &b?\n".toList, .escapedColon, .plain ['/'],
      .parameter .ampersand "ids".toList]⟩
    let ids : Value := .list [.int 1, .tuple [.null]]
    let source : Source := .set .empty "ids" ids
    let marker (ordinal : Nat) : Marker := ⟨"?", .index ordinal, ordinal⟩
    let listed : Fragment :=
      [.slot (marker 1), .text ", ", .text "(", .slot (marker 2), .text ")"]
    let expansion : Expansion := ⟨[.text "'a?'".toList, .text [' '], .text ['-'],
      .parameter "it's" [.slot (marker 0)], .text "-- &b?\n".toList, .text [':'], .text ['/'],
      .parameter "ids" listed], [("ids", .value ids)]⟩
    let prepared : Prepared := ⟨expansion.fragment,
      [⟨marker 0, .value (.text "x")⟩, ⟨marker 1, .value (.int 1)⟩, ⟨marker 2, .null .unknown⟩],
      none⟩
    parse text = .ok template ∧
      template.expand Dialect.mysql.markerStyle source = .ok expansion ∧ template.Free '?' ∧
      (expansion.run [.bind "it's" (.text "x")]).finish = .ok prepared ∧
      regionsOf expansion.sql = ["'a?'".toList, "-- &b?\n".toList] ∧
      sitesOf '?' prepared.sql = [6, 16, 20] ∧ prepared.bindings.length = 3 := by
  intro text template ids source marker listed expansion prepared
  have parsed : parse text = .ok template := by decide +kernel
  have expanded : template.expand Dialect.mysql.markerStyle source = .ok expansion := by rfl
  have free : template.Free '?' := by
    simp [Free, template, Token.source]
  have finished : (expansion.run [.bind "it's" (.text "x")]).finish = .ok prepared := by rfl
  obtain ⟨regions, marks⟩ := expand_regions parsed expanded
  obtain ⟨_, finishes⟩ := marks (.inl rfl) free
  obtain ⟨_, sites, count⟩ := finishes _ prepared finished
  have slots : prepared.fragment.slots = [6, 16, 20] := by decide +kernel
  rw [slots] at sites
  rw [sites] at count
  exact ⟨parsed, expanded, free, finished, regions, sites, count.symm⟩

end Template

end BindPlan
