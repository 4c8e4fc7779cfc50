import BindPlan.Proofs.Fragment
import BindPlan.Proofs.Marker.Handout
import BindPlan.Template.Expansion

namespace BindPlan.Expansion

/-- The texts of list elements whose markers have the placeholders in order. An element that is a row
itself stands in parentheses. -/
def elementTexts : List Value → List String → List String
  | [], _ => []
  | item :: rest, placeholders =>
      match item.row? with
      | some row =>
          ("(" ++ ", ".intercalate (placeholders.take row.length) ++ ")") ::
            elementTexts rest (placeholders.drop row.length)
      | none => ", ".intercalate (placeholders.take 1) :: elementTexts rest (placeholders.drop 1)

/-- The text of an occurrence whose name has a value in the source. -/
def rendering : Option Value → List String → String
  | some (.list items), placeholders => ", ".intercalate (elementTexts items placeholders)
  | _, placeholders => ", ".intercalate placeholders

/-- The number of markers of an occurrence: one for each element, and one for a name without a value
and for an empty tuple. -/
def width : Option Value → Nat
  | none => 1
  | some (.tuple items) => max items.length 1
  | some value => value.flatten.length

namespace Group

/-- The text of a group with its markers. -/
def write : Group → List Marker → Fragment
  | .plain _, markers => Fragment.joined ", " (markers.map Fragment.ofMarker)
  | .row _, markers =>
      Fragment.ofText "(" ++ Fragment.joined ", " (markers.map Fragment.ofMarker)
        ++ Fragment.ofText ")"

theorem markers_write (group : Group) (markers : List Marker) :
    (group.write markers).markers = markers := by
  cases group <;> simp [write, Fragment.markers_map_ofMarker]

theorem sql_write (group : Group) (markers : List Marker) :
    (group.write markers).sql = match group with
      | .plain _ => ", ".intercalate (markers.map Marker.placeholder)
      | .row _ => "(" ++ ", ".intercalate (markers.map Marker.placeholder) ++ ")" := by
  have placeholders : (markers.map Fragment.ofMarker).map Fragment.sql =
      markers.map Marker.placeholder := by
    rw [List.map_map]
    apply List.map_congr_left
    intro marker _
    exact Fragment.sql_ofMarker marker
  cases group <;> simp [write, placeholders, String.append_assoc]

end Group

/-- Markers are placed in the order in which they are handed out. -/
theorem placeMarkers_hands (name : String) (count : Nat) (start : Allocator) :
    ∃ markers : List Marker, markers.length = count ∧
      ((placeMarkers name count).run start).1 = markers.map Fragment.ofMarker ∧
      start.Hands markers ((placeMarkers name count).run start).2 := by
  induction count generalizing start with
  | zero => exact ⟨[], rfl, rfl, .none start⟩
  | succ count inductionHypothesis =>
      obtain ⟨markers, long, placed, hands⟩ := inductionHypothesis (start.nextFor name).2
      refine ⟨(start.nextFor name).1 :: markers, congrArg Nat.succ long, ?_, ?_⟩
      · rw [List.map_cons, ← placed]
        rfl
      · exact .next (some name) hands

theorem placeGroup_hands (name : String) (group : Group) (start : Allocator) :
    ∃ markers : List Marker, markers.length = group.count ∧
      ((placeGroup name group).run start).1 = group.write markers ∧
      start.Hands markers ((placeGroup name group).run start).2 := by
  obtain ⟨markers, long, placed, hands⟩ := placeMarkers_hands name group.count start
  refine ⟨markers, long, ?_, ?_⟩
  · cases group <;> rw [Group.write, ← placed] <;> rfl
  · cases group <;> exact hands

/-- A row has as many markers as its group asks for. -/
def Fits (group : Group) (row : List Marker) : Prop := row.length = group.count

/-- A row of groups is placed group by group. -/
theorem placeGroups_hands (name : String) (groups : List Group) (start : Allocator) :
    ∃ rows : List (List Marker),
      List.Forall₂ Fits groups rows ∧
      ((placeGroups name groups).run start).1 =
        Fragment.joined ", " (List.zipWith Group.write groups rows) ∧
      start.Hands rows.flatten ((placeGroups name groups).run start).2 := by
  have each : ∃ rows : List (List Marker),
      List.Forall₂ Fits groups rows ∧
      ((groups.mapM (placeGroup name)).run start).1 = List.zipWith Group.write groups rows ∧
      start.Hands rows.flatten ((groups.mapM (placeGroup name)).run start).2 := by
    induction groups generalizing start with
    | nil => exact ⟨[], .nil, rfl, .none start⟩
    | cons group rest inductionHypothesis =>
        obtain ⟨row, long, placed, hands⟩ := placeGroup_hands name group start
        obtain ⟨rows, longs, others, behind⟩ :=
          inductionHypothesis ((placeGroup name group).run start).2
        refine ⟨row :: rows, .cons long longs, ?_, ?_⟩
        · rw [List.mapM_cons, List.zipWith_cons_cons, ← placed, ← others]
          rfl
        · rw [List.mapM_cons]
          exact hands.append behind
  obtain ⟨rows, longs, placed, hands⟩ := each
  refine ⟨rows, longs, ?_, hands⟩
  rw [← placed]
  rfl

theorem markers_zipWith_write {groups : List Group} {rows : List (List Marker)}
    (fits : List.Forall₂ Fits groups rows) :
    (List.zipWith Group.write groups rows).flatMap Fragment.markers = rows.flatten := by
  induction fits with
  | nil => rfl
  | cons head rest inductionHypothesis =>
      rw [List.zipWith_cons_cons, List.flatMap_cons, Group.markers_write, inductionHypothesis,
        List.flatten_cons]

theorem count_ofElement (item : Value) :
    (Group.ofElement item).count = (item.row?.getD [item]).length := by
  rw [Group.ofElement]
  cases item.row? <;> rfl

/-- The rows of list elements hold a marker for each value of the flattened list. -/
theorem length_elements {items : List Value} {rows : List (List Marker)}
    (fits : List.Forall₂ Fits (items.map Group.ofElement) rows) :
    rows.flatten.length = (Value.list items).flatten.length := by
  rw [Value.flatten]
  induction items generalizing rows with
  | nil =>
      cases fits
      rfl
  | cons item rest inductionHypothesis =>
      obtain ⟨row, others, head, tail, rfl⟩ := List.forall₂_cons_left_iff.mp fits
      rw [List.flatten_cons, List.flatMap_cons, List.length_append, List.length_append,
        inductionHypothesis tail, ← count_ofElement, head]

/-- The rows of list elements are written as the texts of the elements. -/
theorem sql_elements {items : List Value} {rows : List (List Marker)}
    (fits : List.Forall₂ Fits (items.map Group.ofElement) rows) :
    (List.zipWith Group.write (items.map Group.ofElement) rows).map Fragment.sql =
      elementTexts items (rows.flatten.map Marker.placeholder) := by
  induction items generalizing rows with
  | nil =>
      cases fits
      rfl
  | cons item rest inductionHypothesis =>
      obtain ⟨row, others, head, tail, rfl⟩ := List.forall₂_cons_left_iff.mp fits
      rw [List.map_cons, List.zipWith_cons_cons, List.map_cons, inductionHypothesis tail,
        List.flatten_cons, List.map_append, Group.sql_write, elementTexts]
      rw [Fits, count_ofElement] at head
      rw [Group.ofElement]
      cases element : item.row? with
      | none =>
          rw [element] at head
          have long : (row.map Marker.placeholder).length = 1 := by rwa [List.length_map]
          rw [List.take_left' long, List.drop_left' long]
      | some values =>
          rw [element] at head
          have long : (row.map Marker.placeholder).length = values.length := by
            rwa [List.length_map]
          dsimp only
          rw [List.take_left' long, List.drop_left' long]

/-- A list takes a group for each of its elements, and any other value takes one row of markers. -/
theorem groups_cases {name : String} {value : Option Value} {taken : List Group}
    (grouped : groups name value = .ok taken) :
    (∃ item rest, value = some (.list (item :: rest)) ∧
      taken = (item :: rest).map Group.ofElement) ∨
    (∀ items, value ≠ some (.list items)) ∧ taken = [.plain (width value)] ∧ width value ≠ 0 := by
  rcases value with _ | value
  · cases grouped
    exact .inr ⟨nofun, rfl, Nat.one_ne_zero⟩
  cases value with
  | list items =>
      cases items with
      | nil => cases grouped
      | cons item rest =>
          cases grouped
          exact .inl ⟨item, rest, rfl, rfl⟩
  | tuple items =>
      cases grouped
      refine .inr ⟨nofun, rfl, ?_⟩
      rw [width]
      omega
  | _ =>
      cases grouped
      exact .inr ⟨nofun, rfl, Nat.one_ne_zero⟩

/-- The markers of an occurrence are as many as the value in the source asks for, and are written as
the rendering of that value. -/
theorem written_rendering {name : String} {value : Option Value} {taken : List Group}
    {rows : List (List Marker)} (grouped : groups name value = .ok taken)
    (fits : List.Forall₂ Fits taken rows) :
    rows.flatten.length = width value ∧
      (Fragment.joined ", " (List.zipWith Group.write taken rows)).sql =
        rendering value (rows.flatten.map Marker.placeholder) := by
  rcases groups_cases grouped with ⟨item, rest, rfl, rfl⟩ | ⟨single, rfl, _⟩
  · rw [Fragment.sql_joined, sql_elements fits]
    exact ⟨length_elements fits, rfl⟩
  · obtain ⟨row, others, head, tail, rfl⟩ := List.forall₂_cons_left_iff.mp fits
    cases tail
    have plain (placeholders : List String) :
        rendering value placeholders = ", ".intercalate placeholders := by
      unfold rendering
      split
      · exact absurd rfl (single _)
      · rfl
    rw [Fragment.sql_joined, List.zipWith_cons_cons, List.map_cons, Group.sql_write,
      List.flatten_cons, List.flatten_nil, List.append_nil, plain]
    exact ⟨head, String.intercalate_singleton⟩

end BindPlan.Expansion
