import BindPlan.Bindings

namespace BindPlan.MySql

inductive ArgumentType where
  | tiny
  | longLong
  | double
  | varString
  | blob
deriving DecidableEq, Repr

/-- An argument with its bytes. A null has a type and no bytes. -/
structure Argument where
  type : ArgumentType
  content : Option (List UInt8)
deriving DecidableEq, Repr

/-- A scalar of one of the types that arguments are made of, or the null of that type. -/
inductive Scalar where
  | bool (truth : Option Bool)
  | int (integer : Option Int64)
  | float (number : Option Binary64)
  | text (content : Option String)
  | bytes (content : Option (List UInt8))
deriving DecidableEq, Repr

namespace Scalar

/-- The scalar of a value. A collection has none. -/
def ofValue : Value → Except BindingRefusal Scalar
  | .null => .ok (.text none)
  | .bool truth => .ok (.bool truth)
  | .int integer => .ok (.int integer)
  | .float number => .ok (.float number)
  | .text content => .ok (.text content)
  | .bytes content => .ok (.bytes content)
  | collection => .error (.collection collection)

/-- The null scalar of a declared type. An array type has none. -/
def ofNull : StorageType → Except BindingRefusal Scalar
  | .bool => .ok (.bool none)
  | .int => .ok (.int none)
  | .float => .ok (.float none)
  | .text | .unknown => .ok (.text none)
  | .bytes => .ok (.bytes none)
  | .array _ => .error .arrayNull

end Scalar

/-- The encoding of scalars by a driver. -/
structure Encoder where
  encode : Scalar → Argument

/-- The arguments collected so far, and the position that the next marker must have. -/
structure Collected where
  arguments : List Argument := []
  position : Nat := 0
deriving DecidableEq, Repr

namespace Collected

/-- The position counts for a marker as soon as the marker is accepted, even if its value is refused
then. -/
def advance (collected : Collected) : Target → Except BindingRefusal Collected
  | .index position =>
      if position = collected.position then
        .ok { collected with position := position + 1 }
      else .error (.outOfOrder position collected.position)
  | .name name => .error (.namedTarget name)

/-- The outcome of one call: the marker is accepted first, and then its argument is added. -/
def add (collected : Collected) (target : Target) (argument : Except BindingRefusal Argument) :
    Except Error Unit × Collected :=
  match collected.advance target with
  | .error refusal => (.error (.unsupportedBinding refusal), collected)
  | .ok advanced =>
      match argument with
      | .error refusal => (.error (.unsupportedBinding refusal), advanced)
      | .ok argument => (.ok (), { advanced with arguments := advanced.arguments ++ [argument] })

end Collected

variable (encoder : Encoder)

/-- The sink that collects positional arguments. -/
def argumentSink : Sink Collected where
  bindValue collected target value := collected.add target (encoder.encode <$> Scalar.ofValue value)
  bindNull collected target declared := collected.add target (encoder.encode <$> Scalar.ofNull declared)

/-- The arguments that a bind plan gives. -/
def collect (bindings : Bindings) : Except Error (List Argument) :=
  match bindings.applyTo (argumentSink encoder) {} with
  | (.ok (), collected) => .ok collected.arguments
  | (.error error, _) => .error error

end BindPlan.MySql
