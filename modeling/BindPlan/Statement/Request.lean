import BindPlan.Condition.Basic

namespace BindPlan

inductive Direction where
  | asc
  | desc
deriving DecidableEq, Repr

/-- The place of nulls in an order. -/
inductive NullPlacement where
  /-- The database places nulls as it does without being asked. -/
  | native
  | first
  | last
deriving DecidableEq, Repr

/-- One key of an order, by the name of a property. -/
structure Order where
  property : String
  direction : Direction := .asc
  nulls : NullPlacement := .native
deriving DecidableEq, Repr

/-- The window of rows that a SELECT gives. -/
structure Page where
  limit : Option UInt64 := none
  offset : Option UInt64 := none
deriving DecidableEq, Repr

namespace Page

/-- The largest number of rows that a page can skip. -/
def maxOffset : Nat := UInt64.size - 1

/-- The page with a number counted from zero. Rows beyond the largest offset cannot be skipped. -/
def ofNumber (number size : UInt64) : Page where
  limit := some size
  offset := some (UInt64.ofNat (min maxOffset (number.toNat * size.toNat)))

def isUnpaged (page : Page) : Bool := page.limit.isNone && page.offset.isNone

end Page

/-- A property that receives a value. -/
structure Assignment where
  property : String
  value : Value
  /-- The type declared for a null. -/
  declared : Option StorageType := none

namespace Request

structure Select where
  table : Table
  /-- No property stands for all columns. -/
  projection : List String := []
  distinct : Bool := false
  criteria : Criteria := .empty
  sort : List Order := []
  page : Page := {}

structure Insert where
  table : Table
  assignments : List Assignment := []
  /-- The properties whose generated values are asked back. -/
  returning : List String := []

structure Update where
  table : Table
  assignments : List Assignment := []
  criteria : Criteria := .empty

structure Delete where
  table : Table
  criteria : Criteria := .empty

namespace Select

def addOrder (select : Select) (order : Order) : Select :=
  { select with sort := select.sort ++ [order] }

def setLimit (select : Select) (limit : UInt64) : Select :=
  { select with page := { select.page with limit := some limit } }

def setOffset (select : Select) (offset : UInt64) : Select :=
  { select with page := { select.page with offset := some offset } }

end Select

namespace Insert

def assign (insert : Insert) (property : String) (value : Value) : Insert :=
  { insert with assignments := insert.assignments ++ [{ property, value }] }

def assignNull (insert : Insert) (property : String) (declared : StorageType) : Insert :=
  { insert with assignments := insert.assignments ++ [⟨property, .null, some declared⟩] }

end Insert

namespace Update

def assign (update : Update) (property : String) (value : Value) : Update :=
  { update with assignments := update.assignments ++ [{ property, value }] }

def assignNull (update : Update) (property : String) (declared : StorageType) : Update :=
  { update with assignments := update.assignments ++ [⟨property, .null, some declared⟩] }

end Update

end Request

/-- A request for a statement of any kind. -/
inductive Request where
  | select (request : Request.Select)
  | insert (request : Request.Insert)
  | update (request : Request.Update)
  | delete (request : Request.Delete)

end BindPlan
