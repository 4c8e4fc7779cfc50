import BindPlan.Value.Basic

namespace BindPlan

/-- The columns and the types of properties. The newest entry of a property is found first. -/
structure Metadata where
  columns : List (String × String)
  types : List (String × StorageType)

namespace Metadata

def empty : Metadata := ⟨[], []⟩

/-- The metadata with a property mapped to a column and its type. -/
def insert (metadata : Metadata) (property column : String) (type : StorageType) : Metadata :=
  ⟨(property, column) :: metadata.columns, (property, type) :: metadata.types⟩

/-- The metadata of the given properties, the last of equal ones being found. -/
def ofList (entries : List (String × String × StorageType)) : Metadata :=
  entries.foldl (fun metadata entry => metadata.insert entry.1 entry.2.1 entry.2.2) empty

def column? (metadata : Metadata) (property : String) : Option String :=
  metadata.columns.lookup property

def type? (metadata : Metadata) (property : String) : Option StorageType :=
  metadata.types.lookup property

/-- The column of a property. A property without an entry names its own column. -/
def columnName (metadata : Metadata) (property : String) : String :=
  (metadata.column? property).getD property

end Metadata

end BindPlan
