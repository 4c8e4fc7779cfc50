import BindPlan.MySql.Argument
import BindPlan.Template.Expansion

namespace BindPlan.MySql

/-- A statement text with its bind plan. -/
structure Query where
  sql : String
  bindings : Bindings
deriving DecidableEq

/-- What a database is sent. -/
structure Call where
  sql : String
  arguments : List Argument
deriving DecidableEq, Repr

/-- What a database answers. -/
structure Answer (Row : Type) where
  rowsAffected : Nat := 0
  lastInsertId : Nat := 0
  rows : List Row := []

/-- A database answers one call after another, in the encoding of its driver. -/
structure Database (State Row : Type) where
  encoder : Encoder
  answer : State → Call → Except DatabaseFault (Answer Row) × State

namespace Query

def ofPrepared (prepared : Prepared) : Query := ⟨prepared.sql, prepared.bindings⟩

/-- The query of a text with named parameters, all of which the source gives a value. -/
def ofTemplate (text : String) (source : Source) : Except Error Query := do
  let template ← Template.parse text
  let expansion ← template.expand Dialect.mysql.markerStyle source
  return ofPrepared (← expansion.finish)

/-- What the query sends. -/
def call (query : Query) (encoder : Encoder) : Except Error Call :=
  Call.mk query.sql <$> collect encoder query.bindings

variable {State Row : Type}

/-- The answer of a database. A query without arguments to send leaves the database as it was. -/
def run (query : Query) (database : Database State Row) (state : State) :
    Except Error (Answer Row) × State :=
  match query.call database.encoder with
  | .error error => (.error error, state)
  | .ok call =>
      let (answer, next) := database.answer state call
      (answer.mapError .database, next)

/-- All rows. -/
def fetchAll (query : Query) (database : Database State Row) (state : State) :
    Except Error (List Row) × State :=
  let (answer, next) := query.run database state
  (answer.map Answer.rows, next)

/-- The first row, if there is one. -/
def fetchOptional (query : Query) (database : Database State Row) (state : State) :
    Except Error (Option Row) × State :=
  let (answer, next) := query.run database state
  (answer.map fun found => found.rows.head?, next)

/-- The first row. There must be one. -/
def fetchOne (query : Query) (database : Database State Row) (state : State) :
    Except Error Row × State :=
  let (found, next) := query.fetchOptional database state
  (found.bind fun row => row.elim (.error (.database .noRow)) .ok, next)

end Query

end BindPlan.MySql
