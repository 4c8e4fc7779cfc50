import BindPlan.Number.Binary64

/-!
Values that a statement parameter may hold, and the storage types that columns declare. A list is a
parameter with several values, a tuple is a row of values, and an array is one storable value.
-/

namespace BindPlan

/-- The declared storage type of a column or a parameter. -/
inductive StorageType where
  | unknown
  | bool
  | int
  | float
  | text
  | bytes
  | array (element : StorageType)
deriving DecidableEq, Repr

/-- The element type of an array type. Any other type is its own element type. -/
def StorageType.element : StorageType → StorageType
  | .array element => element
  | scalar => scalar

/-- A value that can be bound to a marker. -/
inductive Value where
  | null
  | bool (truth : Bool)
  | int (integer : Int64)
  | float (number : Binary64)
  | text (content : String)
  | bytes (content : List UInt8)
  | array (items : List Value)
  | list (items : List Value)
  | tuple (items : List Value)

namespace Value

def isNull : Value → Bool
  | null => true
  | _ => false

/-- Lists and tuples are collections. An array is one value. -/
def isCollection : Value → Bool
  | list _ | tuple _ => true
  | _ => false

/-- The row that a list element holds, if it is a list or a tuple itself. -/
def row? : Value → Option (List Value)
  | list items | tuple items => some items
  | _ => none

/-- The elements of a list or a tuple flattened one level, as they are bound to markers. -/
def flatten : Value → List Value
  | list items => items.flatMap fun item => item.row?.getD [item]
  | tuple items => items
  | value => [value]

/-- The items of a list, tuple or array. Any other value is its own only item. -/
def items : Value → List Value
  | array items | list items | tuple items => items
  | value => [value]

mutual

/-- The type of a value. A collection has the type of its first element that is not null. -/
def storageType : Value → StorageType
  | null => .unknown
  | bool _ => .bool
  | int _ => .int
  | float _ => .float
  | text _ => .text
  | bytes _ => .bytes
  | array items => .array (firstType items)
  | list items => firstType items
  | tuple items => firstType items

/-- The type of the first value that is not null, or unknown. -/
def firstType : List Value → StorageType
  | [] => .unknown
  | null :: rest => firstType rest
  | value :: _ => storageType value

end

mutual

/-- The values are equal. Two numbers are equal where their bits are. -/
def same : Value → Value → Bool
  | null, null => true
  | bool first, bool second => first == second
  | int first, int second => first == second
  | float first, float second => first == second
  | text first, text second => first == second
  | bytes first, bytes second => first == second
  | array first, array second | list first, list second | tuple first, tuple second =>
      allSame first second
  | _, _ => false

def allSame : List Value → List Value → Bool
  | [], [] => true
  | first :: firsts, second :: seconds => first.same second && allSame firsts seconds
  | _, _ => false

end

mutual

theorem same_iff : ∀ first second : Value, first.same second = true ↔ first = second
  | array items, second | list items, second | tuple items, second => by
      cases second <;> simp [same, allSame_iff items]
  | null, second | bool _, second | int _, second | float _, second | text _, second
  | bytes _, second => by cases second <;> simp [same]

theorem allSame_iff : ∀ firsts seconds : List Value,
    allSame firsts seconds = true ↔ firsts = seconds
  | [], seconds => by cases seconds <;> simp [allSame]
  | first :: firsts, seconds => by
      cases seconds with
      | nil => simp [allSame]
      | cons second seconds => simp [allSame, same_iff first second, allSame_iff firsts seconds]

end

instance : DecidableEq Value := fun first second => decidable_of_iff _ (same_iff first second)

end Value

end BindPlan
