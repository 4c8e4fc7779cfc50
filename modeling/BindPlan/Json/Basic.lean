import BindPlan.Json.Number
import BindPlan.Json.Raw

namespace BindPlan

inductive Json where
  | null
  | bool (truth : Bool)
  | number (number : Json.Number)
  | text (content : String)
  | array (items : List Json)
  | object (members : List (String × Json))

namespace Json

/-- The members with one more. It replaces a member of its name. -/
def insertMember (name : String) (value : Json) : List (String × Json) → List (String × Json)
  | [] => [(name, value)]
  | member :: rest =>
      if name < member.1 then (name, value) :: member :: rest
      else if name = member.1 then (name, value) :: rest
      else member :: insertMember name value rest

/-- The members sorted by name, of each name the last. -/
def sortMembers (members : List (String × Json)) : List (String × Json) :=
  members.foldl (fun sorted member => insertMember member.1 member.2 sorted) []

mutual

/-- The value of a tree. It has none if a number in it is infinite or a text has no content. -/
def ofRaw? : Raw → Option Json
  | .null => some null
  | .bool truth => some (bool truth)
  | .numeral found => found.number?.map number
  | .text content => content.map text
  | .array items => (ofItems? items).map array
  | .object members => (ofMembers? members).map fun found => object (sortMembers found)

def ofItems? : List Raw → Option (List Json)
  | [] => some []
  | item :: rest => do return (← ofRaw? item) :: (← ofItems? rest)

def ofMembers? : List (Option String × Raw) → Option (List (String × Json))
  | [] => some []
  | (name, value) :: rest => do return (← name, ← ofRaw? value) :: (← ofMembers? rest)

end

/-- The value that a whole text stands for. -/
def parse? (text : String) : Option Json :=
  match Raw.read (tokens text.toList) with
  | some (raw, ⟨[], _⟩) => ofRaw? raw
  | _ => none

mutual

/-- The text of a value without white space. -/
def render : Json → String
  | null => "null"
  | bool truth => toString truth
  | number found => found.text
  | text content => Quoted.encode content
  | array items => "[" ++ ",".intercalate (renderItems items) ++ "]"
  | object members => "\x7b" ++ ",".intercalate (renderMembers members) ++ "\x7d"

def renderItems : List Json → List String
  | [] => []
  | item :: rest => render item :: renderItems rest

def renderMembers : List (String × Json) → List String
  | [] => []
  | (name, value) :: rest => (Quoted.encode name ++ ":" ++ render value) :: renderMembers rest

end

end Json

end BindPlan
