import BindPlan.Proofs.Template.Bare
import BindPlan.Proofs.Template.Splice

namespace BindPlan

namespace Expansion

/-- The shape of what a source gives for a name: single markers and rows of markers. A tuple takes the
markers of as many scalars, and at least one. -/
def shape : Option Value → List Group
  | some (.list items) => items.map Group.ofElement
  | some (.tuple items) => List.replicate (max items.length 1) (.plain 1)
  | _ => [.plain 1]

/-- Markers in a row are placed as groups of one marker each. -/
theorem placeGroups_plain (name : String) (count : Nat) :
    placeGroups name [.plain count] = placeGroups name (List.replicate count (.plain 1)) := by
  have each : (List.replicate count (Group.plain 1)).mapM (placeGroup name) =
      placeMarkers name count := by
    induction count with
    | zero => rfl
    | succ count inductionHypothesis =>
        rw [List.replicate_succ, List.mapM_cons, inductionHypothesis]
        rfl
  have single : [Group.plain count].mapM (placeGroup name) =
      (fun placed => [Fragment.joined ", " placed]) <$> placeMarkers name count := by
    rw [List.mapM_cons]
    rfl
  have alone (placed : List Fragment) :
      Fragment.joined ", " [Fragment.joined ", " placed] = Fragment.joined ", " placed :=
    List.intercalate_singleton
  rw [placeGroups, placeGroups, each, single, Functor.map_map]
  simp only [alone]

/-- The markers of a name are placed by the shape of its value. -/
theorem placed_shape (name : String) (value : Option Value) :
    (groups name value).map (placeGroups name) =
      if (shape value).isEmpty then .error (.emptyCollection name)
      else .ok (placeGroups name (shape value)) := by
  rcases value with _ | value
  · rfl
  cases value with
  | list items =>
      cases items with
      | nil => rfl
      | cons item items => rfl
  | tuple items =>
      have filled : (List.replicate (max items.length 1) (Group.plain 1)).isEmpty = false := by
        rw [List.isEmpty_replicate]
        simp
      simp only [groups, shape, filled, Except.map, placeGroups_plain]
      rfl
  | _ => rfl

end Expansion

/-- The sources give values of the same shapes to all names. -/
def Source.Alike (first second : Source) : Prop :=
  ∀ name, Expansion.shape (first.value? name) = Expansion.shape (second.value? name)

namespace Expansion

/-- Pieces depend on the shapes of the values alone. -/
theorem placeTokens_alike {first second : Source} (alike : first.Alike second)
    (tokens : List Template.Token) (allocator : Allocator) :
    placeTokens first tokens allocator = placeTokens second tokens allocator := by
  induction tokens generalizing allocator with
  | nil => rfl
  | cons token rest inductionHypothesis =>
      cases found : token.name? with
      | none => rw [placeTokens_text found, placeTokens_text found, inductionHypothesis]
      | some name =>
          have byShape (source : Source) : placeTokens source (token :: rest) allocator =
              ((groups name (source.value? name)).map (placeGroups name)).bind fun place =>
                let placed := place.run allocator
                (placeTokens source rest placed.2).map (.parameter name placed.1 :: ·) := by
            rw [placeTokens_parameter found]
            cases groups name (source.value? name) <;> rfl
          rw [byShape, byShape, placed_shape, placed_shape, alike]
          simp only [inductionHypothesis]

/-- The text with the markers of each occurrence. -/
def written (expansion : Expansion) : String × List (String × List Marker) :=
  (expansion.sql, expansion.occurrences)

/-- The literal segments of the text with the ordinals of the markers of each occurrence. -/
def layout (expansion : Expansion) : List String × List (String × List Nat) :=
  (expansion.fragment.literals, expansion.occurrences.map fun occurrence =>
    (occurrence.1, occurrence.2.map Marker.ordinal))

theorem layout_bare (expansion : Expansion) : expansion.bare.layout = expansion.layout := by
  rw [layout, layout, fragment_bare, Fragment.literals_bare, occurrences_bare, List.map_map]
  simp only [Function.comp_def, List.map_map]
  rfl

end Expansion

/-- The literal segments of the text with what is bound at each ordinal. -/
def Prepared.contents (prepared : Prepared) : List String × List (Nat × BindValue) :=
  (prepared.fragment.literals, prepared.bindings.map fun binding =>
    (binding.marker.ordinal, binding.value))

theorem Prepared.contents_bare (prepared : Prepared) : prepared.bare.contents = prepared.contents := by
  rw [contents, contents, bare, Fragment.literals_bare, List.map_map]
  rfl

namespace Template

/-- The statement that is finished after a row of calls on the expansion. -/
def finished (template : Template) (style : MarkerStyle) (source : Source)
    (calls : List Expansion.Call) : Except Error Prepared := do
  (← template.expand style source).run calls |>.finish

theorem expand_written {first second : Source} (alike : first.Alike second) (template : Template)
    (style : MarkerStyle) :
    (template.expand style first).map Expansion.written =
      (template.expand style second).map Expansion.written := by
  rw [expand, expand, Expansion.placeTokens_alike alike]
  cases Expansion.placeTokens second template.tokens style.allocator <;> rfl

theorem expand_layout (template : Template) (style : MarkerStyle) (source : Source) :
    (template.expand style source).map Expansion.layout =
      (template.expand (.anonymous "") source).map Expansion.layout := by
  rw [template.expand_bare style source]
  cases template.expand style source with
  | error error => rfl
  | ok expansion => exact congrArg Except.ok expansion.layout_bare.symm

theorem finished_contents (template : Template) (style : MarkerStyle) (source : Source)
    (calls : List Expansion.Call) :
    (template.finished style source calls).map Prepared.contents =
      (template.finished (.anonymous "") source calls).map Prepared.contents := by
  rw [finished, finished, template.expand_bare style source]
  cases template.expand style source with
  | error error => rfl
  | ok expansion =>
      change (expansion.run calls).finish.map Prepared.contents =
        (expansion.bare.run calls).finish.map Prepared.contents
      rw [Expansion.run_bare, Expansion.finish_bare]
      cases (expansion.run calls).finish with
      | error error => rfl
      | ok prepared => exact congrArg Except.ok prepared.contents_bare.symm

/-- Values never reach the text. With values of the same shapes an expansion fails with the same error
or has the same text and the same markers at each occurrence. With another style of markers it fails
with the same error or has the same literal segments around its markers, and whatever calls follow, the
same values and nulls are bound in the same order. -/
theorem expand_separated (template : Template) {source twin : Source} (alike : source.Alike twin)
    (style other : MarkerStyle) (calls : List Expansion.Call) :
    (template.expand style source).map Expansion.written =
        (template.expand style twin).map Expansion.written ∧
      (template.expand style source).map Expansion.layout =
        (template.expand other source).map Expansion.layout ∧
      (∀ expansion : Expansion, expansion.sql = Fragment.interleave expansion.layout.1
        ((expansion.occurrences.flatMap Prod.snd).map Marker.placeholder)) ∧
      (template.finished style source calls).map Prepared.contents =
        (template.finished other source calls).map Prepared.contents := by
  refine ⟨template.expand_written alike style, ?_, ?_, ?_⟩
  · rw [template.expand_layout style, template.expand_layout other]
  · intro expansion
    rw [← Expansion.markers_occurrences]
    exact expansion.fragment.sql_eq_interleave
  · rw [template.finished_contents style, template.finished_contents other]

/-- A list with a row and a name without a value have the shapes of another list with a row and of a
null. -/
theorem expand_separated_rows :
    let template : Template := ⟨[.plain "x IN (".toList, .parameter .colon "ids".toList,
      .plain ") AND y = ".toList, .parameter .colon "n".toList]⟩
    let source : Source := .set .empty "ids" (.list [.int 1, .tuple [.int 2, .null]])
    let twin : Source := (Source.empty.set "n" .null).set "ids"
      (.list [.text "') OR 1 = 1", .list [.bool true, .array []]])
    let calls : List Expansion.Call := [.bind "n" (.int 4)]
    source.Alike twin ∧
      (template.expand (.indexed "$" 1) source).map Expansion.written =
        (template.expand (.indexed "$" 1) twin).map Expansion.written ∧
      (template.expand (.indexed "$" 1) source).map Expansion.layout =
        (template.expand (.named "@" "P" 32) source).map Expansion.layout ∧
      (∀ expansion : Expansion, expansion.sql = Fragment.interleave expansion.layout.1
        ((expansion.occurrences.flatMap Prod.snd).map Marker.placeholder)) ∧
      (template.finished (.indexed "$" 1) source calls).map Prepared.contents =
        (template.finished (.named "@" "P" 32) source calls).map Prepared.contents := by
  intro template source twin calls
  have alike : source.Alike twin := by
    intro name
    by_cases ids : name = "ids"
    · subst ids
      rfl
    · by_cases other : name = "n"
      · subst other
        rfl
      · rw [Source.value?, Source.value?]
        simp only [source, twin, Source.set, Source.empty, List.lookup_cons, List.lookup_nil,
          beq_false_of_ne ids, beq_false_of_ne other]
  exact ⟨alike, template.expand_separated alike _ _ calls⟩

end Template

end BindPlan
