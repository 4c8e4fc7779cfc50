import BindPlan.Marker.Basic

namespace BindPlan

inductive Dialect where
  | postgres
  | h2
  | mysql
  | sqlite
  | sqlserver
  | oracle
deriving DecidableEq, Repr, Inhabited

/-- The way in which an INSERT hands generated keys back. -/
inductive KeyRetrieval where
  /-- A clause at the end of the statement names the columns. -/
  | returning
  /-- A clause before the values names the columns of the inserted row. -/
  | output
  /-- The driver reports the keys and the text stays as it is. -/
  | driver
deriving DecidableEq, Repr

namespace Dialect

def name : Dialect → String
  | postgres => "postgres"
  | h2 => "h2"
  | mysql => "mysql"
  | sqlite => "sqlite"
  | sqlserver => "sqlserver"
  | oracle => "oracle"

/-- All dialects in the order in which messages list them. -/
def all : List Dialect := [postgres, h2, mysql, sqlite, sqlserver, oracle]

def ofName? (name : String) : Option Dialect := all.find? fun dialect => dialect.name == name

theorem ofName?_name (dialect : Dialect) : ofName? dialect.name = some dialect := by
  cases dialect <;> decide

/-- The way in which the dialect writes markers. -/
def markerStyle : Dialect → MarkerStyle
  | postgres | h2 => .indexed "$" 1
  | mysql | sqlite => .anonymous "?"
  | sqlserver => .named "@" "P" 32
  | oracle => .named ":" "P" 30

def boolLiteral : Dialect → Bool → String
  | sqlserver, truth | oracle, truth => if truth then "1" else "0"
  | _, truth => if truth then "TRUE" else "FALSE"

/-- These dialects accept NULLS FIRST and NULLS LAST. -/
def ordersNulls : Dialect → Bool
  | mysql | sqlserver => false
  | _ => true

/-- These dialects can test whether an array contains another. -/
def comparesArrays : Dialect → Bool
  | postgres => true
  | _ => false

def keyRetrieval : Dialect → KeyRetrieval
  | postgres | sqlite => .returning
  | sqlserver => .output
  | mysql | h2 | oracle => .driver

/-- These dialects refuse to skip rows of a statement without an order. -/
def skipsOrderedOnly : Dialect → Bool
  | sqlserver => true
  | _ => false

end Dialect

end BindPlan
