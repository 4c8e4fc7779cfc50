import BindPlan.Dialect.Basic
import BindPlan.Settings.Fault
import BindPlan.Value.Quoted

namespace BindPlan

/-- The reason why a statement text has no template. -/
inductive TemplateFault where
  | unterminatedName
  | forbiddenInName (char : Char)
deriving DecidableEq, Repr

namespace TemplateFault

def message : TemplateFault → String
  | unterminatedName => "Non-terminated named parameter declaration"
  | forbiddenInName char =>
      "Parameter name contains invalid character '" ++ String.singleton char ++ "'"

end TemplateFault

/-- The reason why a value cannot be converted. -/
inductive ConversionFault where
  /-- Only zero and one stand for truth values. -/
  | notBoolean (integer : Int64)
  /-- A converter states a reason of its own. -/
  | refused (reason : String)
deriving DecidableEq, Repr

namespace ConversionFault

def message : ConversionFault → String
  | notBoolean integer => toString integer.toInt ++ " is not a boolean"
  | refused reason => reason

end ConversionFault

/-- The reason why a value cannot be bound. -/
inductive BindingRefusal where
  | outOfOrder (position expected : Nat)
  | namedTarget (name : String)
  /-- A collection is not one argument. -/
  | collection (value : Value)
  /-- A null of an array type has no argument type. -/
  | arrayNull
  /-- A sink states a reason of its own. -/
  | refused (reason : String)
deriving DecidableEq

namespace BindingRefusal

def message : BindingRefusal → String
  | outOfOrder position expected =>
      "argument " ++ toString position ++ " bound out of order, expected " ++ toString expected
  | namedTarget name => "named marker '" ++ name ++ "' cannot be bound positionally"
  | collection value => "MySQL has no parameter type for " ++ value.quoted
  | arrayNull => "MySQL has no array parameter type"
  | refused reason => reason

end BindingRefusal

/-- The reason why a database did not answer. -/
inductive DatabaseFault where
  | noRow
  | poolClosed
deriving DecidableEq, Repr

namespace DatabaseFault

def message : DatabaseFault → String
  | noRow => "no rows returned by a query that expected to return at least one row"
  | poolClosed => "attempted to acquire a connection on a closed pool"

end DatabaseFault

/-- The statements that assign values to columns. -/
inductive AssignmentKind where
  | insert
  | update
deriving DecidableEq, Repr

namespace AssignmentKind

def keyword : AssignmentKind → String
  | insert => "INSERT"
  | update => "UPDATE"

end AssignmentKind

/-- The cause of a failed operation. -/
inductive Error where
  | malformedTemplate (fault : TemplateFault) (position : Nat)
  | unresolvedParameter (name : String)
  | unknownParameter (name : String)
  | bindingArity (name : String) (expected actual : Nat)
  | emptyCollection (name : String)
  | emptyCriteria
  | emptyAssignment (kind : AssignmentKind)
  /-- The dialect cannot test whether an array contains another. -/
  | unsupportedContainment (dialect : Dialect)
  | unsupportedBinding (refusal : BindingRefusal)
  | conversion (fault : ConversionFault)
  | settings (fault : SettingsFault)
  | database (fault : DatabaseFault)
deriving DecidableEq

namespace Error

def message : Error → String
  | malformedTemplate fault position => fault.message ++ " at position " ++ toString position
  | unresolvedParameter name => "No value supplied for named parameter '" ++ name ++ "'"
  | unknownParameter name => "Named parameter '" ++ name ++ "' does not occur in the statement"
  | bindingArity name expected actual =>
      "Parameter '" ++ name ++ "' expects " ++ toString expected ++ " value(s) but "
        ++ toString actual ++ " were supplied"
  | emptyCollection name => "Collection bound to parameter '" ++ name ++ "' is empty"
  | emptyCriteria => "Criteria must not be empty"
  | emptyAssignment kind => kind.keyword ++ " requires at least one column assignment"
  | unsupportedContainment dialect =>
      "Comparator CONTAINS is not supported by dialect " ++ dialect.name
  | unsupportedBinding refusal => "Unsupported binding: " ++ refusal.message
  | conversion fault => "Value conversion failed: " ++ fault.message
  | settings fault => "Invalid engine configuration: " ++ fault.message
  | database fault => "Database error: " ++ fault.message

end Error

end BindPlan
