import BindPlan.Proofs.Template.Rebinding
import BindPlan.Proofs.Template.Splice
import Mathlib.Data.List.Forall2

namespace BindPlan

/-- The bindings hold the elements of the value in order, or its null at every marker. -/
def BindValue.Fills : BindValue → Bindings → Prop
  | .value content, bindings =>
      bindings.map Binding.value = content.flatten.map (BindValue.ofValue .unknown)
  | .null declared, bindings => ∀ binding ∈ bindings, binding.value = .null declared

namespace Expansion

theorem bindOccurrence_fills {name : String} {markers : List Marker} {value : BindValue}
    {bindings : Bindings} (binds : bindOccurrence name markers value = .ok bindings) :
    bindings.markers = markers ∧ value.Fills bindings := by
  cases value with
  | null declared =>
      cases binds
      refine ⟨?_, ?_⟩
      · rw [Bindings.markers, List.map_map]
        exact List.map_id markers
      · intro binding member
        obtain ⟨marker, _, rfl⟩ := List.mem_map.mp member
        rfl
  | value content =>
      rw [bindOccurrence] at binds
      split at binds
      · rename_i long
        cases binds
        have pairs : markers.zipWith (fun marker element =>
              Binding.mk marker (.ofValue .unknown element)) content.flatten =
            (markers.zip content.flatten).map fun pair =>
              ⟨pair.1, .ofValue .unknown pair.2⟩ := by
          rw [List.map_zip_eq_zipWith]
          rfl
        rw [pairs]
        refine ⟨?_, ?_⟩
        · rw [Bindings.markers, List.map_map]
          exact List.map_fst_zip (Nat.le_of_eq long.symm)
        · rw [BindValue.Fills, List.map_map]
          have elements := congrArg (List.map (BindValue.ofValue .unknown))
            (List.map_snd_zip (Nat.le_of_eq long) : (markers.zip content.flatten).map Prod.snd = _)
          rwa [List.map_map] at elements
      · cases binds

/-- The markers of an occurrence are bound to the value that is stored for its name. -/
structure Bound (stored : String → Option BindValue) (entry : String × List Marker)
    (chunk : Bindings) : Prop where
  markers : chunk.markers = entry.2
  value : ∃ value, stored entry.1 = some value ∧ value.Fills chunk

/-- The bindings of finished occurrences are one chunk for each occurrence. -/
theorem bindOccurrences_fills {expansion : Expansion} {occurrences : List (String × List Marker)}
    {bindings : Bindings} (binds : expansion.bindOccurrences occurrences = .ok bindings) :
    ∃ chunks : List Bindings, bindings = chunks.flatten ∧
      List.Forall₂ (Bound expansion.value?) occurrences chunks := by
  induction occurrences generalizing bindings with
  | nil =>
      cases binds
      exact ⟨[], rfl, .nil⟩
  | cons occurrence rest inductionHypothesis =>
      obtain ⟨name, markers⟩ := occurrence
      rw [bindOccurrences] at binds
      cases found : expansion.value? name with
      | none =>
          rw [found] at binds
          cases binds
      | some value =>
          rw [found] at binds
          obtain ⟨chunk, head, binds⟩ := bind_eq_ok.mp binds
          obtain ⟨others, tail, binds⟩ := bind_eq_ok.mp binds
          cases binds
          obtain ⟨chunks, rfl, fills⟩ := inductionHypothesis tail
          obtain ⟨same, filled⟩ := bindOccurrence_fills head
          exact ⟨chunk :: chunks, rfl, .cons ⟨same, value, found, filled⟩ fills⟩

/-- An occurrence has as many bindings as the value in the source asks for, and they hold the current
value of its name. -/
structure Filled (source : Source) (current : String → Option BindValue)
    (occurrence : Template.Occurrence) (chunk : Bindings) : Prop where
  width : chunk.length = width (source.value? occurrence.name)
  value : ∃ value, current occurrence.name = some value ∧ value.Fills chunk

/-- The expansion of a template has a piece for each token, and its markers are handed out in order. -/
theorem expand_placed {template : Template} {style : MarkerStyle} {source : Source}
    {expansion : Expansion} (expanded : template.expand style source = .ok expansion) :
    List.Forall₂ (Placed source) template.tokens expansion.pieces ∧
      (∃ finish, style.allocator.Hands (expansion.occurrences.flatMap Prod.snd) finish) ∧
      ∀ occurrence ∈ template.occurrences,
        expansion.value? occurrence.name = Template.suppliedValue? source occurrence.name := by
  obtain ⟨pieces, places, done⟩ := bind_eq_ok.mp expanded
  cases done
  obtain ⟨placed, finish, hands⟩ := placeTokens_hands places
  refine ⟨placed, ⟨finish, ?_⟩, ?_⟩
  · rw [← markers_occurrences, fragment, Fragment.markers_flatMap]
    exact hands
  · intro occurrence member
    rw [value?, lookup_supplied, if_pos]
    rw [Template.names, List.mem_eraseDups, Template.occurringNames,
      ← Template.names_occurrencesFrom 0]
    exact List.mem_map_of_mem member

/-- Occurrences whose markers are counted and then bound are filled. -/
theorem filled_of_counted {source : Source} {stored current : String → Option BindValue}
    {occurrences : List Template.Occurrence} {entries : List (String × List Marker)}
    {chunks : List Bindings}
    (counted : List.Forall₂ (Counted source) occurrences entries)
    (bound : List.Forall₂ (Bound stored) entries chunks)
    (agree : ∀ occurrence ∈ occurrences, stored occurrence.name = current occurrence.name) :
    List.Forall₂ (Filled source current) occurrences chunks ∧
      chunks.flatMap Bindings.markers = entries.flatMap Prod.snd ∧
      List.zipWith (fun occurrence chunk => rendering (source.value? occurrence.name)
        ((Bindings.markers chunk).map Marker.placeholder)) occurrences chunks =
          renderings source entries := by
  induction counted generalizing chunks with
  | nil =>
      cases bound
      exact ⟨.nil, rfl, rfl⟩
  | @cons occurrence entry occurrences entries head rest inductionHypothesis =>
      obtain ⟨chunk, others, ⟨markers, value, found, fills⟩, tail, rfl⟩ :=
        List.forall₂_cons_left_iff.mp bound
      obtain ⟨filled, inOrder, rendered⟩ := inductionHypothesis tail fun other member =>
        agree other (List.mem_cons_of_mem _ member)
      obtain ⟨named, long⟩ := head
      refine ⟨.cons ⟨?_, value, ?_, fills⟩ filled, ?_, ?_⟩
      · rw [← long, ← markers, Bindings.markers, List.length_map]
      · rw [← agree occurrence List.mem_cons_self, ← named, found]
      · rw [List.flatMap_cons, List.flatMap_cons, markers, inOrder]
      · rw [List.zipWith_cons_cons, rendered, markers, ← named]
        rfl

end Expansion

end BindPlan
