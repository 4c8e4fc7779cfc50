import BindPlan.Proofs.Template.Insertion
import BindPlan.Proofs.Template.LateBinding

namespace BindPlan

/-- The value is a list or a tuple without elements. -/
def Value.isEmptyRow (value : Value) : Bool := value.row?.any List.isEmpty

namespace Fragment

/-- The parentheses of a row without markers. -/
def emptyPair : Fragment := ofText "(" ++ ofText ")"

/-- A separator that is not in a part keeps the part on one side of it. -/
theorem infix_append_cons {part first second : Fragment} {separator : Part} (filled : part ≠ [])
    (absent : separator ∉ part) :
    part <:+: first ++ separator :: second ↔ part <:+: first ∨ part <:+: second := by
  constructor
  · intro inside
    rcases List.infix_append_iff.mp inside with inFirst | behind | ⟨left, right, rfl, ends, starts⟩
    · exact .inl inFirst
    · rcases List.infix_cons_iff.mp behind with starts | inSecond
      · rcases List.prefix_cons_iff.mp starts with rfl | ⟨rest, rfl, _⟩
        · exact absurd rfl filled
        · exact absurd List.mem_cons_self absent
      · exact .inr inSecond
    · rcases List.prefix_cons_iff.mp starts with rfl | ⟨rest, rfl, _⟩
      · rw [List.append_nil]
        exact .inl ends.isInfix
      · exact absurd (List.mem_append_right left List.mem_cons_self) absent
  · rintro (inFirst | inSecond)
    · exact inFirst.trans (List.prefix_append first (separator :: second)).isInfix
    · exact inSecond.trans ((List.suffix_cons separator second).trans
        (List.suffix_append first (separator :: second))).isInfix

theorem infix_joined {part : Fragment} {separator : String} (filled : part ≠ [])
    (absent : Part.text separator ∉ part) (fragments : List Fragment) :
    part <:+: joined separator fragments ↔ ∃ fragment ∈ fragments, part <:+: fragment := by
  induction fragments with
  | nil => simpa [joined] using filled
  | cons first rest inductionHypothesis =>
      cases rest with
      | nil => simp [joined]
      | cons second rest =>
          rw [joined_cons_cons, ofText, List.append_assoc, List.singleton_append,
            infix_append_cons filled absent, inductionHypothesis]
          simp only [List.mem_cons, exists_eq_or_imp]

end Fragment

namespace Expansion

open Fragment (emptyPair)

/-- The value is a list with an empty row among its elements. -/
def hasEmptyRow : Option Value → Bool
  | some (.list items) => items.any Value.isEmptyRow
  | _ => false

/-- The value is a list that has empty rows alone. -/
def onlyEmptyRows : Option Value → Bool
  | some (.list items) => items.all Value.isEmptyRow
  | _ => false

/-- What expansion reports about a name: its list has no elements. -/
def emptyList? (source : Source) (name : String) : Option Error :=
  match source.value? name with
  | some (.list []) => some (.emptyCollection name)
  | _ => none

variable {source : Source} {name : String} {value : Option Value} {taken : List Group}

theorem Group.ofElement_eq_empty {item : Value} :
    Group.ofElement item = .row 0 ↔ item.isEmptyRow = true := by
  rw [Group.ofElement, Value.isEmptyRow]
  cases item.row? with
  | none => simp
  | some row => simp

/-- A row without markers is asked for where a list has an empty row. -/
theorem empty_mem_groups (grouped : groups name value = .ok taken) :
    Group.row 0 ∈ taken ↔ hasEmptyRow value = true := by
  rcases groups_cases grouped with ⟨item, rest, rfl, rfl⟩ | ⟨single, rfl, _⟩
  · rw [hasEmptyRow, List.any_eq_true, List.mem_map]
    simp only [Group.ofElement_eq_empty]
  · refine iff_of_false (by simp) ?_
    unfold hasEmptyRow
    split
    · exact absurd rfl (single _)
    · exact Bool.false_ne_true

theorem getD_row_eq_nil {item : Value} :
    item.row?.getD [item] = [] ↔ item.isEmptyRow = true := by
  rw [Value.isEmptyRow]
  cases item.row? with
  | none => simp
  | some row => simp

/-- No marker is asked for where a list has empty rows alone. -/
theorem width_eq_zero (value : Option Value) : width value = 0 ↔ onlyEmptyRows value = true := by
  rcases value with _ | value
  · simp [width, onlyEmptyRows]
  cases value with
  | list items =>
      change (items.flatMap fun item => item.row?.getD [item]).length = 0 ↔ _
      rw [List.length_eq_zero_iff, List.flatMap_eq_nil_iff, onlyEmptyRows, List.all_eq_true]
      simp only [getD_row_eq_nil]
  | tuple items => simp [width, onlyEmptyRows]
  | _ => simp [width, onlyEmptyRows, Value.flatten]

section Parentheses

variable {row : List Marker}

/-- Markers and the commas between them hold no parentheses. -/
theorem text_not_mem_markers {content : String} (other : content ≠ ", ") :
    Fragment.Part.text content ∉ Fragment.joined ", " (row.map Fragment.ofMarker) := by
  intro member
  rcases Fragment.mem_joined member with same | ⟨fragment, among, inside⟩
  · cases same
    exact other rfl
  · obtain ⟨marker, _, rfl⟩ := List.mem_map.mp among
    cases List.mem_singleton.mp inside

/-- Parentheses with nothing between them are those of a row without markers. -/
theorem emptyPair_infix_write {group : Group} (fits : Fits group row) :
    emptyPair <:+: group.write row ↔ group = .row 0 := by
  cases group with
  | plain count =>
      refine iff_of_false (fun inside => ?_) (by simp)
      exact text_not_mem_markers (by decide) (inside.subset List.mem_cons_self)
  | row count =>
      obtain rfl : row.length = count := fits
      rw [Group.write, Group.row.injEq, List.length_eq_zero_iff]
      constructor
      · intro inside
        have whole (inner : Fragment) : Fragment.ofText "(" ++ inner ++ Fragment.ofText ")" =
            .text "(" :: (inner ++ Fragment.ofText ")") := rfl
        rw [whole] at inside
        rcases List.infix_cons_iff.mp inside with starts | behind
        · cases row with
          | nil => rfl
          | cons marker rest =>
              -- The part behind the opening parenthesis is a marker.
              have second := (List.cons_prefix_cons.mp starts).2
              cases rest <;> cases (List.cons_prefix_cons.mp second).1
        · rcases List.mem_append.mp (behind.subset List.mem_cons_self) with opening | closing
          · exact absurd opening (text_not_mem_markers (by decide : "(" ≠ ", "))
          · exact absurd (List.mem_singleton.mp closing) (by decide)
      · rintro rfl
        exact List.infix_refl _

theorem emptyPair_infix_groups {rows : List (List Marker)} (fits : List.Forall₂ Fits taken rows) :
    emptyPair <:+: Fragment.joined ", " (List.zipWith Group.write taken rows) ↔
      Group.row 0 ∈ taken := by
  rw [Fragment.infix_joined (by decide) (by decide)]
  induction fits with
  | nil => simp
  | cons head _ inductionHypothesis =>
      rw [List.zipWith_cons_cons, List.mem_cons, ← inductionHypothesis, eq_comm,
        ← emptyPair_infix_write head]
      simp only [List.mem_cons, exists_eq_or_imp]

end Parentheses

/-- An occurrence has no marker where the list of its name has empty rows alone, and an empty pair of
parentheses where the list has an empty row. -/
structure FollowsRows (value : Option Value) (fragment : Fragment) : Prop where
  unmarked : fragment.markers = [] ↔ onlyEmptyRows value = true
  pair : emptyPair <:+: fragment ↔ hasEmptyRow value = true

theorem placeGroups_followsRows (grouped : groups name value = .ok taken) (start : Allocator) :
    FollowsRows value ((placeGroups name taken).run start).1 := by
  obtain ⟨rows, fits, placed, _⟩ := placeGroups_hands name taken start
  rw [placed]
  refine ⟨?_, ?_⟩
  · rw [Fragment.markers_joined, markers_zipWith_write fits, ← width_eq_zero,
      ← (written_rendering grouped fits).1, List.length_eq_zero_iff]
  · rw [emptyPair_infix_groups fits, empty_mem_groups grouped]

theorem groups_error {error : Error} :
    groups name (source.value? name) = .error error ↔ emptyList? source name = some error := by
  rw [emptyList?]
  cases source.value? name with
  | none => simp [groups]
  | some value =>
      cases value with
      | list items => cases items <;> simp [groups]
      | _ => simp [groups]

/-- The first occurring name with an empty list is the one that is reported. -/
theorem placeTokens_error {tokens : List Template.Token} {start : Allocator} {error : Error} :
    placeTokens source tokens start = .error error ↔
      (tokens.filterMap Template.Token.name?).findSome? (emptyList? source) = some error := by
  induction tokens generalizing start with
  | nil => simp [placeTokens]
  | cons token rest inductionHypothesis =>
      cases named : token.name? with
      | none =>
          rw [placeTokens_text named, List.filterMap_cons_none named, ← inductionHypothesis]
          exact map_eq_error
      | some name =>
          rw [placeTokens_parameter named, List.filterMap_cons_some named]
          exact bind_eq_error_iff_first groups_error fun _ => map_eq_error.trans inductionHypothesis

/-- Each parameter among the pieces follows the rows of the value of its name. -/
theorem placeTokens_followsRows {tokens : List Template.Token} {start : Allocator}
    {pieces : List Piece} (places : placeTokens source tokens start = .ok pieces) :
    ∀ name fragment, .parameter name fragment ∈ pieces →
      FollowsRows (source.value? name) fragment := by
  induction tokens generalizing start pieces with
  | nil =>
      cases places
      simp
  | cons token rest inductionHypothesis =>
      cases named : token.name? with
      | none =>
          rw [placeTokens_text named] at places
          obtain ⟨others, tail, rfl⟩ := map_eq_ok.mp places
          intro name fragment member
          rcases List.mem_cons.mp member with same | member
          · cases same
          · exact inductionHypothesis tail name fragment member
      | some first =>
          rw [placeTokens_parameter named] at places
          obtain ⟨taken, grouped, places⟩ := bind_eq_ok.mp places
          obtain ⟨others, tail, rfl⟩ := map_eq_ok.mp places
          intro name fragment member
          rcases List.mem_cons.mp member with same | member
          · cases same
            exact placeGroups_followsRows grouped start
          · exact inductionHypothesis tail name fragment member

end Expansion

namespace Template

open Expansion

/-- Expansion is refused at the first occurring name whose list has no elements, and for no other cause.
A row without elements is not refused: an occurrence has an empty pair of parentheses where its list has
such a row, and no marker where its list has such rows alone. -/
theorem expand_emptyRows (template : Template) (style : MarkerStyle) (source : Source) :
    (∀ error, template.expand style source = .error error ↔
      template.occurringNames.findSome? (emptyList? source) = some error) ∧
    ∀ expansion, template.expand style source = .ok expansion →
      expansion.occurrences.map Prod.fst = template.occurringNames ∧
      ∀ name fragment, .parameter name fragment ∈ expansion.pieces →
        FollowsRows (source.value? name) fragment := by
  refine ⟨fun error => ?_, fun expansion expanded => ⟨(fitted_expand expanded).names, ?_⟩⟩
  · rw [occurringNames, ← placeTokens_error, expand, bind_eq_error]
    constructor
    · rintro (fails | ⟨pieces, _, fails⟩)
      · exact fails
      · cases fails
    · exact .inl
  · obtain ⟨pieces, places, done⟩ := bind_eq_ok.mp expanded
    cases done
    exact placeTokens_followsRows places

/-- A list of one empty row is expanded to an empty pair of parentheses, with nothing to bind. -/
theorem expand_emptyRows_unmarked :
    let template : Template := ⟨[.plain ['('], .parameter .colon "ids".toList, .plain [')']]⟩
    let ids : Value := .list [.list []]
    let source : Source := .set .empty "ids" ids
    let expansion : Expansion :=
      ⟨[.text ['('], .parameter "ids" Fragment.emptyPair, .text [')']], [("ids", .value ids)]⟩
    parse "(:ids)" = .ok template ∧
      template.expand Dialect.postgres.markerStyle source = .ok expansion ∧
      expansion.sql = "(())" ∧ expansion.occurrences = [("ids", [])] ∧ expansion.unbound = [] ∧
      expansion.finish = .ok ⟨expansion.fragment, [], none⟩ := by
  intro template ids source expansion
  have parsed : parse "(:ids)" = .ok template := by decide +kernel
  have expanded : template.expand Dialect.postgres.markerStyle source = .ok expansion := by rfl
  have text : expansion.sql = "(())" := by rfl
  have bound : expansion.unbound = [] := by rfl
  have finished : expansion.finish = .ok ⟨expansion.fragment, [], none⟩ := by rfl
  exact ⟨parsed, expanded, text, rfl, bound, finished⟩

end Template

end BindPlan
