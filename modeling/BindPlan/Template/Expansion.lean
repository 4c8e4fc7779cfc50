import BindPlan.Bindings
import BindPlan.Marker.Allocator
import BindPlan.Source
import BindPlan.Template.Basic

namespace BindPlan

namespace Expansion

/-- Markers that stand together: a plain row of them, or a row in parentheses. -/
inductive Group where
  | plain (count : Nat)
  | row (count : Nat)
deriving DecidableEq, Repr

namespace Group

/-- The group of one list element. -/
def ofElement (element : Value) : Group :=
  match element.row? with
  | some items => .row items.length
  | none => .plain 1

def count : Group → Nat
  | plain count | row count => count

end Group

/-- The groups of markers that the occurrences of a name take. -/
def groups (name : String) : Option Value → Except Error (List Group)
  | some (.list []) => .error (.emptyCollection name)
  | some (.list items) => .ok (items.map Group.ofElement)
  | some (.tuple items) => .ok [.plain (max items.length 1)]
  | _ => .ok [.plain 1]

/-- A part of an expanded statement. -/
inductive Piece where
  | text (content : List Char)
  /-- The markers of one occurrence with the text between them. -/
  | parameter (name : String) (fragment : Fragment)
deriving DecidableEq

namespace Piece

def fragment : Piece → Fragment
  | text content => Fragment.ofText (String.ofList content)
  | parameter _ fragment => fragment

end Piece

/-- The next markers of a name, as many as asked for. -/
def placeMarkers (name : String) : Nat → StateM Allocator (List Fragment)
  | 0 => pure []
  | count + 1 => do
      let marker ← modifyGet fun allocator => allocator.nextFor name
      return Fragment.ofMarker marker :: (← placeMarkers name count)

def placeGroup (name : String) : Group → StateM Allocator Fragment
  | .plain count => Fragment.joined ", " <$> placeMarkers name count
  | .row count => do
      let markers ← placeMarkers name count
      return Fragment.ofText "(" ++ Fragment.joined ", " markers ++ Fragment.ofText ")"

def placeGroups (name : String) (groups : List Group) : StateM Allocator Fragment :=
  Fragment.joined ", " <$> groups.mapM (placeGroup name)

/-- The piece of one token. Text is copied and a parameter is replaced by its markers. -/
def placeToken (source : Source) (token : Template.Token) (allocator : Allocator) :
    Except Error (Piece × Allocator) :=
  match token.name? with
  | none => .ok (.text token.output, allocator)
  | some name => do
      let groups ← groups name (source.value? name)
      let (fragment, allocator) := (placeGroups name groups).run allocator
      return (.parameter name fragment, allocator)

def placeTokens (source : Source) : List Template.Token → Allocator → Except Error (List Piece)
  | [], _ => .ok []
  | token :: rest, allocator => do
      let (piece, allocator) ← placeToken source token allocator
      return piece :: (← placeTokens source rest allocator)

theorem placeTokens_cons (source : Source) (token : Template.Token) (rest : List Template.Token)
    (allocator : Allocator) :
    placeTokens source (token :: rest) allocator =
      (placeToken source token allocator).bind fun placed =>
        (placeTokens source rest placed.2).map (placed.1 :: ·) := by
  rw [placeTokens]
  cases placeToken source token allocator with
  | error error => rfl
  | ok placed =>
      change (do return placed.1 :: (← placeTokens source rest placed.2)) = _
      simp only [Except.bind]
      cases placeTokens source rest placed.2 <;> rfl

/-- Text is copied, and no marker is handed out for it. -/
theorem placeTokens_text {token : Template.Token} (text : token.name? = none) (source : Source)
    (rest : List Template.Token) (allocator : Allocator) :
    placeTokens source (token :: rest) allocator =
      (placeTokens source rest allocator).map (.text token.output :: ·) := by
  rw [placeTokens_cons, placeToken, text]
  rfl

/-- A parameter gives way to the markers of its groups. -/
theorem placeTokens_parameter {token : Template.Token} {name : String}
    (parameter : token.name? = some name) (source : Source) (rest : List Template.Token)
    (allocator : Allocator) :
    placeTokens source (token :: rest) allocator =
      (groups name (source.value? name)).bind fun groups =>
        let placed := (placeGroups name groups).run allocator
        (placeTokens source rest placed.2).map (.parameter name placed.1 :: ·) := by
  rw [placeTokens_cons, placeToken, parameter]
  dsimp only
  cases groups name (source.value? name) <;> rfl

end Expansion

/-- A statement text with markers in place of its parameters, and the values known so far. The
newest value of a name is found first. -/
structure Expansion where
  pieces : List Expansion.Piece
  supplied : List (String × BindValue)
deriving DecidableEq

namespace Template

/-- What the source supplies under a name. -/
def suppliedValue? (source : Source) (name : String) : Option BindValue :=
  (source.value? name).map (BindValue.ofValue ((source.type? name).getD .unknown))

/-- The expansion of a template with markers of a style and the values of a source. -/
def expand (template : Template) (style : MarkerStyle) (source : Source) :
    Except Error Expansion := do
  let pieces ← Expansion.placeTokens source template.tokens style.allocator
  let supplied := template.names.filterMap fun name =>
    (suppliedValue? source name).map fun value => (name, value)
  return ⟨pieces, supplied⟩

end Template

namespace Expansion

def fragment (expansion : Expansion) : Fragment := expansion.pieces.flatMap Piece.fragment

def sql (expansion : Expansion) : String := expansion.fragment.sql

/-- The parameter occurrences in textual order, each with its markers. -/
def occurrences (expansion : Expansion) : List (String × List Marker) :=
  expansion.pieces.filterMap fun piece =>
    match piece with
    | .text _ => none
    | .parameter name fragment => some (name, fragment.markers)

/-- The markers of each occurrence of a name. -/
def occurrencesOf (expansion : Expansion) (name : String) : List (List Marker) :=
  (expansion.occurrences.filter fun occurrence => occurrence.1 == name).map Prod.snd

/-- The markers of a name in textual order. -/
def markersOf (expansion : Expansion) (name : String) : List Marker :=
  (expansion.occurrencesOf name).flatten

/-- The value that is recorded for a name. -/
def value? (expansion : Expansion) (name : String) : Option BindValue :=
  expansion.supplied.lookup name

/-- The distinct names without a value in the order of their first occurrence. -/
def unbound (expansion : Expansion) : List String :=
  ((expansion.occurrences.map Prod.fst).filter fun name =>
    (expansion.value? name).isNone).eraseDups

/-- The expansion with a value recorded for a name. -/
def record (expansion : Expansion) (name : String) (value : BindValue) : Expansion :=
  { expansion with supplied := (name, value) :: expansion.supplied }

/-- The expansion with a value bound to every occurrence of a name. The value must have one element
for each marker of each occurrence. -/
def bind (expansion : Expansion) (name : String) (value : Value) : Except Error Expansion :=
  let actual := value.flatten.length
  let occurrences := expansion.occurrencesOf name
  match occurrences.find? fun markers => markers.length != actual with
  | some markers => .error (.bindingArity name markers.length actual)
  | none =>
      if occurrences.isEmpty then .error (.unknownParameter name)
      else .ok (expansion.record name (.ofValue .unknown value))

/-- The expansion with a null of a declared type bound to every marker of a name. -/
def bindNull (expansion : Expansion) (name : String) (declared : StorageType) :
    Except Error Expansion :=
  if (expansion.occurrencesOf name).isEmpty then .error (.unknownParameter name)
  else .ok (expansion.record name (.null declared))

/-- The bindings of one occurrence. Its markers take the elements of the value in order. -/
def bindOccurrence (name : String) (markers : List Marker) :
    BindValue → Except Error Bindings
  | .null declared => .ok (markers.map fun marker => ⟨marker, .null declared⟩)
  | .value value =>
      let elements := value.flatten
      if elements.length = markers.length then
        .ok (markers.zipWith (fun marker element => ⟨marker, .ofValue .unknown element⟩) elements)
      else .error (.bindingArity name markers.length elements.length)

/-- The bindings of all occurrences, which need a value each. -/
def bindOccurrences (expansion : Expansion) :
    List (String × List Marker) → Except Error Bindings
  | [] => .ok []
  | (name, markers) :: rest => do
      let some value := expansion.value? name | .error (.unresolvedParameter name)
      let bindings ← bindOccurrence name markers value
      return bindings ++ (← bindOccurrences expansion rest)

/-- The finished statement with its bind plan in textual order. -/
def finish (expansion : Expansion) : Except Error Prepared := do
  let bindings ← expansion.bindOccurrences expansion.occurrences
  return ⟨expansion.fragment, bindings, none⟩

end Expansion

/-- The text in a dialect with one marker in place of each parameter. -/
def Dialect.writeTemplate (dialect : Dialect) (text : String) : Except Error String := do
  let template ← Template.parse text
  let expansion ← template.expand dialect.markerStyle .empty
  return expansion.sql

end BindPlan
