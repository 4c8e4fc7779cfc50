import BindPlan.Marker.Basic

namespace BindPlan

/-- A part of a statement text. -/
inductive Fragment.Part where
  | text (content : String)
  | slot (marker : Marker)
deriving DecidableEq, Repr

/-- Statement text as a sequence of plain texts and markers. -/
abbrev Fragment := List Fragment.Part

namespace Fragment

def Part.sql : Part → String
  | .text content => content
  | .slot marker => marker.placeholder

def Part.marker? : Part → Option Marker
  | .text _ => none
  | .slot marker => some marker

/-- The text of a fragment, each marker written as its placeholder. -/
def sql (fragment : Fragment) : String := String.join (fragment.map Part.sql)

/-- The markers of a fragment in textual order. -/
def markers (fragment : Fragment) : List Marker := fragment.filterMap Part.marker?

/-- The fragment that holds one plain text. -/
def ofText (content : String) : Fragment := [.text content]

/-- The fragment that holds one marker. -/
def ofMarker (marker : Marker) : Fragment := [.slot marker]

/-- The fragments in a row, with a plain text between each two of them. -/
def joined (separator : String) (fragments : List Fragment) : Fragment :=
  (ofText separator).intercalate fragments

@[simp] theorem markers_nil : markers [] = [] := rfl

@[simp] theorem markers_append (first second : Fragment) :
    markers (first ++ second) = markers first ++ markers second := by
  simp [markers]

@[simp] theorem markers_ofText (content : String) : markers (ofText content) = [] := rfl

@[simp] theorem markers_ofMarker (marker : Marker) : markers (ofMarker marker) = [marker] := rfl

@[simp] theorem sql_nil : sql [] = "" := rfl

@[simp] theorem sql_append (first second : Fragment) :
    sql (first ++ second) = sql first ++ sql second := by
  apply String.toList_inj.mp
  simp [sql]

@[simp] theorem sql_ofText (content : String) : sql (ofText content) = content := by
  simp [sql, ofText, Part.sql, String.join]

@[simp] theorem sql_ofMarker (marker : Marker) : sql (ofMarker marker) = marker.placeholder := by
  simp [sql, ofMarker, Part.sql, String.join]

end Fragment

end BindPlan
