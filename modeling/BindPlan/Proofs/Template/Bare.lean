import BindPlan.Proofs.Fragment
import BindPlan.Proofs.Template.Rebinding

namespace BindPlan

/-- The marker without its placeholder and its target. -/
def Marker.bare (marker : Marker) : Marker := ⟨"", .index marker.ordinal, marker.ordinal⟩

/-- The allocator of bare markers that has handed out as many. -/
def Allocator.bare (allocator : Allocator) : Allocator := ⟨.anonymous "", allocator.allocated, []⟩

/-- A bare allocator hands out bare markers. -/
theorem Allocator.allocate_bare (allocator : Allocator) (hint : Option String) :
    allocator.bare.allocate hint =
      Prod.map Marker.bare Allocator.bare (allocator.allocate hint) := by
  rw [Prod.map, Marker.bare, bare, bare, allocate_ordinal, allocate_allocated]
  rfl

namespace Fragment

def Part.bare : Part → Part
  | .text content => .text content
  | .slot marker => .slot marker.bare

def bare (fragment : Fragment) : Fragment := fragment.map Part.bare

theorem bare_eq_mapMarkers (fragment : Fragment) :
    bare fragment = mapMarkers Marker.bare fragment := by
  apply List.map_congr_left
  intro part _
  cases part <;> rfl

@[simp] theorem bare_append (first second : Fragment) :
    bare (first ++ second) = bare first ++ bare second := List.map_append

@[simp] theorem bare_ofText (content : String) : bare (ofText content) = ofText content := rfl

@[simp] theorem bare_joined (separator : String) (fragments : List Fragment) :
    bare (joined separator fragments) = joined separator (fragments.map bare) := by
  rw [bare_eq_mapMarkers, mapMarkers_joined, funext bare_eq_mapMarkers]

theorem markers_bare (fragment : Fragment) :
    markers (bare fragment) = (markers fragment).map Marker.bare := by
  rw [bare_eq_mapMarkers, markers_mapMarkers]

/-- The literal segments of a text do not depend on its placeholders. -/
theorem literals_bare (fragment : Fragment) : literals (bare fragment) = literals fragment := by
  rw [bare_eq_mapMarkers, literals_mapMarkers]

end Fragment

namespace Expansion

theorem run_placeMarkers_succ (name : String) (count : Nat) (allocator : Allocator) :
    (placeMarkers name (count + 1)).run allocator =
      Prod.map (Fragment.ofMarker (allocator.nextFor name).1 :: ·) id
        ((placeMarkers name count).run (allocator.nextFor name).2) := rfl

theorem placeMarkers_bare (name : String) (count : Nat) (allocator : Allocator) :
    (placeMarkers name count).run allocator.bare =
      Prod.map (List.map Fragment.bare) Allocator.bare ((placeMarkers name count).run allocator) := by
  induction count generalizing allocator with
  | zero => rfl
  | succ count inductionHypothesis =>
      have next : allocator.bare.nextFor name =
          Prod.map Marker.bare Allocator.bare (allocator.nextFor name) :=
        allocator.allocate_bare (some name)
      rw [run_placeMarkers_succ, run_placeMarkers_succ, next, Prod.map_snd, inductionHypothesis]
      rfl

/-- The text of a group around its markers. -/
def Group.enclose : Group → List Fragment → Fragment
  | .plain _, markers => Fragment.joined ", " markers
  | .row _, markers => Fragment.ofText "(" ++ Fragment.joined ", " markers ++ Fragment.ofText ")"

theorem Group.enclose_bare (group : Group) (markers : List Fragment) :
    (group.enclose markers).bare = group.enclose (markers.map Fragment.bare) := by
  cases group <;> simp [enclose]

theorem run_placeGroup (name : String) (group : Group) (allocator : Allocator) :
    (placeGroup name group).run allocator =
      Prod.map group.enclose id ((placeMarkers name group.count).run allocator) := by
  cases group <;> rfl

theorem placeGroup_bare (name : String) (group : Group) (allocator : Allocator) :
    (placeGroup name group).run allocator.bare =
      Prod.map Fragment.bare Allocator.bare ((placeGroup name group).run allocator) := by
  rw [run_placeGroup, run_placeGroup, placeMarkers_bare]
  exact Prod.ext (group.enclose_bare _).symm rfl

theorem run_placeGroup_cons (name : String) (group : Group) (groups : List Group)
    (allocator : Allocator) :
    ((group :: groups).mapM (placeGroup name)).run allocator =
      Prod.map (((placeGroup name group).run allocator).1 :: ·) id
        ((groups.mapM (placeGroup name)).run ((placeGroup name group).run allocator).2) := by
  rw [List.mapM_cons]
  rfl

theorem placeGroups_bare (name : String) (groups : List Group) (allocator : Allocator) :
    (placeGroups name groups).run allocator.bare =
      Prod.map Fragment.bare Allocator.bare ((placeGroups name groups).run allocator) := by
  have each : (groups.mapM (placeGroup name)).run allocator.bare =
      Prod.map (List.map Fragment.bare) Allocator.bare
        ((groups.mapM (placeGroup name)).run allocator) := by
    induction groups generalizing allocator with
    | nil => rfl
    | cons group groups inductionHypothesis =>
        rw [run_placeGroup_cons, run_placeGroup_cons, placeGroup_bare, Prod.map_snd,
          inductionHypothesis]
        rfl
  change Prod.map (Fragment.joined ", ") id ((groups.mapM (placeGroup name)).run allocator.bare) = _
  rw [each]
  exact Prod.ext (Fragment.bare_joined _ _).symm rfl

namespace Piece

def bare : Piece → Piece
  | text content => text content
  | parameter name fragment => parameter name fragment.bare

theorem fragment_bare (piece : Piece) : piece.bare.fragment = piece.fragment.bare := by
  cases piece <;> rfl

end Piece

theorem placeTokens_bare (source : Source) (tokens : List Template.Token) (allocator : Allocator) :
    placeTokens source tokens allocator.bare =
      (placeTokens source tokens allocator).map (List.map Piece.bare) := by
  induction tokens generalizing allocator with
  | nil => rfl
  | cons token rest inductionHypothesis =>
      cases found : token.name? with
      | none =>
          rw [placeTokens_text found, placeTokens_text found, inductionHypothesis]
          cases placeTokens source rest allocator <;> rfl
      | some name =>
          rw [placeTokens_parameter found, placeTokens_parameter found]
          cases groups name (source.value? name) with
          | error error => rfl
          | ok taken =>
              simp only [Except.bind, placeGroups_bare, Prod.map_snd, inductionHypothesis, Prod.map_fst]
              cases placeTokens source rest ((placeGroups name taken).run allocator).2 <;> rfl

/-- The expansion with bare markers. -/
def bare (expansion : Expansion) : Expansion :=
  ⟨expansion.pieces.map Piece.bare, expansion.supplied⟩

theorem fragment_bare (expansion : Expansion) : expansion.bare.fragment = expansion.fragment.bare := by
  obtain ⟨pieces, supplied⟩ := expansion
  change (pieces.map Piece.bare).flatMap Piece.fragment = Fragment.bare (pieces.flatMap Piece.fragment)
  induction pieces with
  | nil => rfl
  | cons piece pieces inductionHypothesis =>
      rw [List.map_cons, List.flatMap_cons, List.flatMap_cons, Fragment.bare_append, piece.fragment_bare,
        inductionHypothesis]

theorem occurrences_bare (expansion : Expansion) :
    expansion.bare.occurrences = expansion.occurrences.map fun occurrence =>
      (occurrence.1, occurrence.2.map Marker.bare) := by
  rw [occurrences, occurrences, bare, List.filterMap_map, List.map_filterMap]
  apply List.filterMap_congr
  intro piece _
  cases piece with
  | text content => rfl
  | parameter name fragment => exact congrArg (fun markers => some (name, markers)) fragment.markers_bare

theorem occurrencesOf_bare (expansion : Expansion) (name : String) :
    expansion.bare.occurrencesOf name = (expansion.occurrencesOf name).map (List.map Marker.bare) := by
  rw [occurrencesOf, occurrencesOf, occurrences_bare, List.filter_map, List.map_map, List.map_map]
  rfl

/-- Whether a call is accepted does not depend on the placeholders. -/
theorem accepts_bare (expansion : Expansion) : expansion.bare.accepts = expansion.accepts := by
  funext call
  unfold accepts
  cases call with
  | bind name value =>
      simp only [occurrencesOf_bare, List.isEmpty_map, List.all_map, Function.comp_def, List.length_map]
  | bindNull name declared => simp only [occurrencesOf_bare, List.isEmpty_map]

theorem run_bare (expansion : Expansion) (calls : List Call) :
    expansion.bare.run calls = (expansion.run calls).bare := by
  rw [run_eq, run_eq, accepts_bare]
  rfl

end Expansion

/-- The binding of a bare marker. -/
def Binding.bare (binding : Binding) : Binding := ⟨binding.marker.bare, binding.value⟩

/-- The statement with bare markers. -/
def Prepared.bare (prepared : Prepared) : Prepared :=
  ⟨prepared.fragment.bare, prepared.bindings.map Binding.bare, prepared.keys⟩

namespace Expansion

theorem bindOccurrence_bare (name : String) (markers : List Marker) (value : BindValue) :
    bindOccurrence name (markers.map Marker.bare) value =
      (bindOccurrence name markers value).map (List.map Binding.bare) := by
  cases value with
  | null declared =>
      rw [bindOccurrence, bindOccurrence, Except.map, List.map_map, List.map_map]
      rfl
  | value content =>
      rw [bindOccurrence, bindOccurrence, List.length_map]
      split
      · rw [Except.map, List.map_zipWith, List.zipWith_map_left]
        rfl
      · rfl

theorem bindOccurrences_bare (expansion : Expansion) (occurrences : List (String × List Marker)) :
    expansion.bare.bindOccurrences
        (occurrences.map fun occurrence => (occurrence.1, occurrence.2.map Marker.bare)) =
      (expansion.bindOccurrences occurrences).map (List.map Binding.bare) := by
  induction occurrences with
  | nil => rfl
  | cons occurrence rest inductionHypothesis =>
      obtain ⟨name, markers⟩ := occurrence
      have stored : expansion.bare.value? name = expansion.value? name := rfl
      rw [List.map_cons, bindOccurrences, bindOccurrences, stored]
      cases expansion.value? name with
      | none => rfl
      | some value =>
          dsimp only
          rw [bindOccurrence_bare, inductionHypothesis]
          cases bindOccurrence name markers value with
          | error error => rfl
          | ok bindings =>
              cases expansion.bindOccurrences rest with
              | error error => rfl
              | ok others => exact congrArg Except.ok List.map_append.symm

theorem finish_bare (expansion : Expansion) :
    expansion.bare.finish = expansion.finish.map Prepared.bare := by
  rw [finish, finish, occurrences_bare, bindOccurrences_bare, fragment_bare]
  cases expansion.bindOccurrences expansion.occurrences <;> rfl

end Expansion

namespace Template

/-- Expansions of all styles are the same without their placeholders. -/
theorem expand_bare (template : Template) (style : MarkerStyle) (source : Source) :
    template.expand (.anonymous "") source = (template.expand style source).map Expansion.bare := by
  have places : Expansion.placeTokens source template.tokens (MarkerStyle.anonymous "").allocator =
      (Expansion.placeTokens source template.tokens style.allocator).map (List.map Expansion.Piece.bare) :=
    Expansion.placeTokens_bare source template.tokens style.allocator
  rw [expand, expand, places]
  cases Expansion.placeTokens source template.tokens style.allocator <;> rfl

end Template

end BindPlan
