namespace BindPlan

/-- The place where the value of a marker goes when the statement runs. -/
inductive Target where
  /-- A position among the markers of the statement, counted from zero. -/
  | index (position : Nat)
  /-- A name that the driver sees, without the sign in front of it. -/
  | name (name : String)
deriving DecidableEq, Repr

/-- A placeholder in a statement text. The ordinal counts the markers of the statement. -/
structure Marker where
  placeholder : String
  target : Target
  ordinal : Nat
deriving DecidableEq, Repr

/-- The way in which placeholders are written. -/
inductive MarkerStyle where
  /-- The sign is followed by a number that counts up from `start`. -/
  | indexed (sign : String) (start : UInt64)
  /-- Every marker has the same placeholder and is bound by its position. -/
  | anonymous (placeholder : String)
  /-- The sign is followed by a name. It is taken from a hint and cut to `maxLength` bytes, or made
  of the stem and the ordinal where the hint offers nothing. -/
  | named (sign stem : String) (maxLength : Nat)
deriving DecidableEq, Repr

/-- Placeholders are identifiable when each of them has a text of its own. -/
def MarkerStyle.identifiable : MarkerStyle → Bool
  | .anonymous _ => false
  | _ => true

end BindPlan
