import BindPlan.Error
import BindPlan.Fragment

namespace BindPlan

/-- What a marker receives. -/
inductive BindValue where
  | value (content : Value)
  /-- A null keeps the type that was declared for it. -/
  | null (declared : StorageType)
deriving DecidableEq

/-- The bind value of a value. A null takes the declared type. -/
def BindValue.ofValue (declared : StorageType) : Value → BindValue
  | .null => .null declared
  | content => .value content

/-- The value itself, a typed null being a plain one. -/
def BindValue.toValue : BindValue → Value
  | .value content => content
  | .null _ => .null

/-- One marker with what it receives. -/
structure Binding where
  marker : Marker
  value : BindValue
deriving DecidableEq

/-- The bind plan of a statement, in binding order. -/
abbrev Bindings := List Binding

/-- A sink executes a statement and takes its arguments one by one. Each call gives an outcome and
the next state of the sink. -/
structure Sink (State : Type) where
  bindValue : State → Target → Value → Except Error Unit × State
  bindNull : State → Target → StorageType → Except Error Unit × State

namespace Sink

variable {State : Type}

def bind (sink : Sink State) (state : State) (target : Target) :
    BindValue → Except Error Unit × State
  | .value value => sink.bindValue state target value
  | .null declared => sink.bindNull state target declared

end Sink

namespace Bindings

def markers (bindings : Bindings) : List Marker := bindings.map Binding.marker

/-- The bound values in binding order. -/
def values (bindings : Bindings) : List Value := bindings.map fun binding => binding.value.toValue

/-- The replay of a plan in its order. It ends at the first call that the sink refuses. -/
def applyTo {State : Type} (sink : Sink State) (state : State) :
    Bindings → Except Error Unit × State
  | [] => (.ok (), state)
  | binding :: rest =>
      match sink.bind state binding.marker.target binding.value with
      | (.ok (), next) => applyTo sink next rest
      | (.error error, next) => (.error error, next)

end Bindings

/-- A statement text with its bind plan. -/
structure Prepared where
  fragment : Fragment
  bindings : Bindings
  /-- The way in which generated keys come back, if the statement asks for them. -/
  keys : Option KeyRetrieval
deriving DecidableEq

/-- The text of the statement. -/
def Prepared.sql (prepared : Prepared) : String := prepared.fragment.sql

end BindPlan
