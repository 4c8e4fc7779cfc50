import BindPlan.Value.Basic

namespace BindPlan

/-- A comparison of two operands. -/
inductive Comparison where
  | eq
  | ne
  | lt
  | le
  | gt
  | ge
  | like
  | notLike
deriving DecidableEq, Repr

namespace Comparison

def sql : Comparison → String
  | eq => "="
  | ne => "!="
  | lt => "<"
  | le => "<="
  | gt => ">"
  | ge => ">="
  | like => "LIKE"
  | notLike => "NOT LIKE"

end Comparison

/-- What a predicate asks of its property. -/
inductive PredicateTest where
  | compare (comparison : Comparison) (value : Value)
  /-- The property is an array that contains the value. -/
  | contains (value : Value)
  | isIn (negated : Bool) (values : List Value)
  | between (negated : Bool) (low high : Value)
  | isNull
  | isNotNull
  | isTrue
  | isFalse

namespace PredicateTest

def keyword : PredicateTest → String
  | compare comparison _ => comparison.sql
  | contains _ => "CONTAINS"
  | isIn negated _ => if negated then "NOT IN" else "IN"
  | between negated _ _ => if negated then "NOT BETWEEN" else "BETWEEN"
  | isNull => "IS NULL"
  | isNotNull => "IS NOT NULL"
  | isTrue => "IS TRUE"
  | isFalse => "IS FALSE"

/-- The operands of a test as one value. -/
def operand : PredicateTest → Value
  | compare _ value | contains value => value
  | isIn _ values => .list values
  | between _ low high => .tuple [low, high]
  | isNull | isNotNull => .null
  | isTrue => .bool true
  | isFalse => .bool false

end PredicateTest

/-- A test of one property. -/
structure Predicate where
  property : String
  test : PredicateTest
  ignoreCase : Bool := false

/-- The way in which a clause joins the clauses before it. -/
inductive Connective where
  | and
  | or
deriving DecidableEq, Repr

mutual

/-- One link of a chain. -/
inductive Clause where
  /-- A clause without any test. -/
  | blank
  | predicate (predicate : Predicate)
  /-- Chains that are combined with AND and put in parentheses. -/
  | group (members : List Criteria)

/-- A chain of clauses. -/
inductive Criteria where
  | start (clause : Clause)
  | extend (previous : Criteria) (connective : Connective) (clause : Clause)

end

namespace Criteria

/-- The chain without any test. -/
def empty : Criteria := .start .blank

/-- The chain that starts with a test of a property. -/
def property (name : String) (test : PredicateTest) : Criteria :=
  .start (.predicate { property := name, test })

/-- The chain of one group. -/
def ofGroup (members : List Criteria) : Criteria := .start (.group members)

/-- The newest clause of a chain. -/
def head : Criteria → Clause
  | start clause => clause
  | extend _ _ clause => clause

def previous? : Criteria → Option Criteria
  | start _ => none
  | extend previous _ _ => some previous

/-- The way in which the newest clause joins the others, if there are others. -/
def connective? : Criteria → Option Connective
  | start _ => none
  | extend _ connective _ => some connective

/-- The clauses of a chain, oldest first. -/
def clauses : Criteria → List Clause
  | start clause => [clause]
  | extend previous _ clause => previous.clauses ++ [clause]

end Criteria

/-- The clause with the case of letters ignored or not. Only a predicate is affected. -/
def Clause.ignoreCase (ignored : Bool) : Clause → Clause
  | .predicate tested => .predicate { tested with ignoreCase := ignored }
  | clause => clause

namespace Criteria

/-- The chain with the newest clause ignoring the case of letters or not. -/
def ignoreCase (ignored : Bool) : Criteria → Criteria
  | start clause => start (clause.ignoreCase ignored)
  | extend previous connective clause => extend previous connective (clause.ignoreCase ignored)

end Criteria

mutual

/-- A clause is empty when it holds no predicate at any depth. -/
def Clause.isEmpty : Clause → Bool
  | .blank => true
  | .predicate _ => false
  | .group members => Criteria.allEmpty members

/-- A chain is empty when all its clauses are. -/
def Criteria.isEmpty : Criteria → Bool
  | .start clause => clause.isEmpty
  | .extend previous _ clause => previous.isEmpty && clause.isEmpty

def Criteria.allEmpty : List Criteria → Bool
  | [] => true
  | criteria :: rest => criteria.isEmpty && Criteria.allEmpty rest

end

end BindPlan
