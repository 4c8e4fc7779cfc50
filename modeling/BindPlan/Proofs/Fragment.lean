import BindPlan.Fragment
import BindPlan.Text.Bytes

namespace BindPlan.Fragment

theorem sql_cons (part : Part) (rest : Fragment) : sql (part :: rest) = part.sql ++ sql rest :=
  String.join_cons

theorem joined_singleton (separator : String) (fragment : Fragment) :
    joined separator [fragment] = fragment :=
  List.intercalate_singleton

theorem joined_cons_cons (separator : String) (first second : Fragment) (rest : List Fragment) :
    joined separator (first :: second :: rest) =
      first ++ ofText separator ++ joined separator (second :: rest) :=
  List.intercalate_cons_cons

@[simp] theorem markers_joined (separator : String) (fragments : List Fragment) :
    markers (joined separator fragments) = fragments.flatMap markers := by
  induction fragments with
  | nil => rfl
  | cons first rest inductionHypothesis =>
      cases rest with
      | nil => simp [joined_singleton]
      | cons second rest =>
          rw [joined_cons_cons, markers_append, markers_append, markers_ofText, List.append_nil,
            List.flatMap_cons, inductionHypothesis]

@[simp] theorem sql_joined (separator : String) (fragments : List Fragment) :
    sql (joined separator fragments) = separator.intercalate (fragments.map sql) := by
  induction fragments with
  | nil => simp [joined]
  | cons first rest inductionHypothesis =>
      cases rest with
      | nil => simp [joined_singleton]
      | cons second rest =>
          rw [joined_cons_cons, sql_append, sql_append, sql_ofText, List.map_cons, List.map_cons,
            String.intercalate_cons_cons, ← List.map_cons, inductionHypothesis]

theorem mem_joined {separator : String} {fragments : List Fragment} {part : Part}
    (member : part ∈ joined separator fragments) :
    part = .text separator ∨ ∃ fragment ∈ fragments, part ∈ fragment := by
  induction fragments with
  | nil => cases member
  | cons first rest inductionHypothesis =>
      cases rest with
      | nil => exact .inr ⟨first, List.mem_cons_self, by rwa [joined_singleton] at member⟩
      | cons second rest =>
          rw [joined_cons_cons, List.mem_append, List.mem_append] at member
          rcases member with (inFirst | separates) | behind
          · exact .inr ⟨first, List.mem_cons_self, inFirst⟩
          · exact .inl (List.mem_singleton.mp separates)
          · rcases inductionHypothesis behind with same | ⟨fragment, inRest, inside⟩
            · exact .inl same
            · exact .inr ⟨fragment, List.mem_cons_of_mem first inRest, inside⟩

theorem joined_ne_nil {first : Fragment} (filled : first ≠ []) (separator : String)
    (rest : List Fragment) : joined separator (first :: rest) ≠ [] := by
  cases rest with
  | nil => rwa [joined_singleton]
  | cons second rest =>
      rw [joined_cons_cons]
      simp [filled]

theorem markers_flatMap {A : Type} (items : List A) (fragment : A → Fragment) :
    markers (items.flatMap fragment) = items.flatMap fun item => markers (fragment item) := by
  induction items with
  | nil => rfl
  | cons item rest inductionHypothesis =>
      rw [List.flatMap_cons, markers_append, inductionHypothesis, List.flatMap_cons]

/-- The fragment that holds markers alone. -/
theorem markers_map_ofMarker (markers : List Marker) :
    (markers.map ofMarker).flatMap Fragment.markers = markers := by
  induction markers with
  | nil => rfl
  | cons marker rest inductionHypothesis =>
      rw [List.map_cons, List.flatMap_cons, inductionHypothesis]
      rfl

/-- The text in front of the first marker, between each two markers and behind the last one. -/
def literals : Fragment → List String
  | [] => [""]
  | .slot _ :: rest => "" :: literals rest
  | .text content :: rest =>
      match literals rest with
      | [] => [content]
      | literal :: following => (content ++ literal) :: following

/-- Literal segments with a placeholder behind each of them but the last. -/
def interleave : List String → List String → String
  | literal :: literals, placeholder :: placeholders =>
      literal ++ placeholder ++ interleave literals placeholders
  | literals, _ => String.join literals

theorem length_literals (fragment : Fragment) :
    (literals fragment).length = (markers fragment).length + 1 := by
  induction fragment with
  | nil => rfl
  | cons part rest inductionHypothesis =>
      cases part with
      | slot marker => exact congrArg Nat.succ inductionHypothesis
      | text content =>
          change _ = (markers rest).length + 1
          rw [literals, ← inductionHypothesis]
          cases following : literals rest with
          | nil =>
              rw [following] at inductionHypothesis
              cases inductionHypothesis
          | cons literal others => rfl

/-- The text of a fragment is its literal segments with the placeholders of its markers between. -/
theorem sql_eq_interleave (fragment : Fragment) :
    sql fragment = interleave (literals fragment) ((markers fragment).map Marker.placeholder) := by
  induction fragment with
  | nil => rfl
  | cons part rest inductionHypothesis =>
      rw [sql_cons, inductionHypothesis]
      cases part with
      | slot marker =>
          change _ = "" ++ marker.placeholder ++ _
          rw [String.empty_append]
          rfl
      | text content =>
          change content ++ _ = interleave (literals (.text content :: rest))
            ((markers rest).map Marker.placeholder)
          have long := length_literals rest
          rw [literals]
          cases following : literals rest with
          | nil =>
              rw [following] at long
              cases long
          | cons literal others =>
              cases (markers rest).map Marker.placeholder with
              | nil => simp only [interleave, String.join_cons, String.append_assoc]
              | cons placeholder placeholders => simp only [interleave, String.append_assoc]

theorem toList_sql (fragment : Fragment) :
    (sql fragment).toList = fragment.flatMap fun part => part.sql.toList := by
  induction fragment with
  | nil => rfl
  | cons part rest inductionHypothesis =>
      rw [sql_cons, String.toList_append, inductionHypothesis, List.flatMap_cons]

/-- The byte positions at which the placeholders start in a fragment that stands at a byte position. -/
def slotsFrom (position : Nat) : Fragment → List Nat
  | [] => []
  | .text content :: rest => slotsFrom (position + Text.byteLength content.toList) rest
  | .slot marker :: rest =>
      position :: slotsFrom (position + Text.byteLength marker.placeholder.toList) rest

/-- The byte positions at which the placeholders start. -/
def slots (fragment : Fragment) : List Nat := fragment.slotsFrom 0

theorem slotsFrom_append (position : Nat) (first second : Fragment) :
    slotsFrom position (first ++ second) = slotsFrom position first ++
      slotsFrom (position + Text.byteLength (sql first).toList) second := by
  induction first generalizing position with
  | nil => rfl
  | cons part rest inductionHypothesis =>
      rw [sql_cons, String.toList_append, Text.byteLength_append, ← Nat.add_assoc]
      cases part with
      | text content => exact inductionHypothesis _
      | slot marker => exact congrArg (position :: ·) (inductionHypothesis _)

theorem length_slotsFrom (position : Nat) (fragment : Fragment) :
    (slotsFrom position fragment).length = (markers fragment).length := by
  induction fragment generalizing position with
  | nil => rfl
  | cons part rest inductionHypothesis =>
      cases part with
      | text content => exact inductionHypothesis _
      | slot marker => exact congrArg Nat.succ (inductionHypothesis _)

/-- The part with its marker changed, if it is one. -/
def Part.mapMarker (change : Marker → Marker) : Part → Part
  | .text content => .text content
  | .slot marker => .slot (change marker)

/-- The fragment with its markers changed and the text around them as it is. -/
def mapMarkers (change : Marker → Marker) (fragment : Fragment) : Fragment :=
  fragment.map (Part.mapMarker change)

section Change

variable (change : Marker → Marker)

@[simp] theorem mapMarkers_append (first second : Fragment) :
    mapMarkers change (first ++ second) = mapMarkers change first ++ mapMarkers change second :=
  List.map_append

@[simp] theorem mapMarkers_ofText (content : String) :
    mapMarkers change (ofText content) = ofText content := rfl

@[simp] theorem mapMarkers_joined (separator : String) (fragments : List Fragment) :
    mapMarkers change (joined separator fragments) =
      joined separator (fragments.map (mapMarkers change)) := by
  induction fragments with
  | nil => rfl
  | cons first rest inductionHypothesis =>
      cases rest with
      | nil => simp [joined_singleton]
      | cons second rest =>
          rw [joined_cons_cons, mapMarkers_append, mapMarkers_append, mapMarkers_ofText,
            List.map_cons, List.map_cons, joined_cons_cons, ← List.map_cons, inductionHypothesis]

theorem markers_mapMarkers (fragment : Fragment) :
    markers (mapMarkers change fragment) = (markers fragment).map change := by
  induction fragment with
  | nil => rfl
  | cons part rest inductionHypothesis =>
      cases part with
      | text content => exact inductionHypothesis
      | slot marker => exact congrArg (change marker :: ·) inductionHypothesis

/-- The literal segments of a text do not depend on its markers. -/
theorem literals_mapMarkers (fragment : Fragment) :
    literals (mapMarkers change fragment) = literals fragment := by
  induction fragment with
  | nil => rfl
  | cons part rest inductionHypothesis =>
      cases part with
      | slot marker => exact congrArg ("" :: ·) inductionHypothesis
      | text content =>
          change literals (.text content :: mapMarkers change rest) = _
          rw [literals, inductionHypothesis, literals]

end Change

end BindPlan.Fragment
