import BindPlan.Value.Basic

namespace BindPlan

/-- The values of named parameters, and the types declared for nulls among them. Both are searched
from the newest entry. -/
structure Source where
  values : List (String × Value)
  types : List (String × StorageType)

namespace Source

def empty : Source := ⟨[], []⟩

/-- This entry gives a name its value. A type that was declared for the name stays. -/
def set (source : Source) (name : String) (value : Value) : Source :=
  { source with values := (name, value) :: source.values }

/-- This entry gives a name a null of a declared type. -/
def setNull (source : Source) (name : String) (declared : StorageType) : Source :=
  ⟨(name, .null) :: source.values, (name, declared) :: source.types⟩

/-- The source with the given values, the last of equal names being found. -/
def ofList (values : List (String × Value)) : Source :=
  values.foldl (fun source entry => source.set entry.1 entry.2) empty

def value? (source : Source) (name : String) : Option Value := source.values.lookup name

def type? (source : Source) (name : String) : Option StorageType := source.types.lookup name

def contains (source : Source) (name : String) : Bool := (source.value? name).isSome

end Source

end BindPlan
