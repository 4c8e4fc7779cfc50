import BindPlan.Dialect.Basic

namespace BindPlan

/-- A pagination clause. Its form fixes both its text and the rows that it selects. -/
inductive PageClause where
  | limit (count : UInt64)
  | offset (skipped : UInt64)
  | limitOffset (count skipped : UInt64)
  /-- The skipped rows stand before the count. -/
  | skipThenCount (skipped count : UInt64)
  /-- A negative limit stands for no limit. -/
  | unlimitedOffset (skipped : UInt64)
  | offsetFetch (skipped : UInt64) (count : Option UInt64)
deriving DecidableEq, Repr

namespace PageClause

def number (count : UInt64) : String := toString count.toNat

def sql : PageClause → String
  | limit count => "LIMIT " ++ number count
  | offset skipped => "OFFSET " ++ number skipped
  | limitOffset count skipped => "LIMIT " ++ number count ++ " OFFSET " ++ number skipped
  | skipThenCount skipped count => "LIMIT " ++ number skipped ++ ", " ++ number count
  | unlimitedOffset skipped => "LIMIT -1 OFFSET " ++ number skipped
  | offsetFetch skipped none => "OFFSET " ++ number skipped ++ " ROWS"
  | offsetFetch skipped (some count) =>
      "OFFSET " ++ number skipped ++ " ROWS FETCH NEXT " ++ number count ++ " ROWS ONLY"

/-- The largest count, which stands for all rows where a dialect demands a count. -/
def allRows : UInt64 := 18446744073709551615

end PageClause

/-- The pagination clause of the dialect, or none if neither bound is given. -/
def Dialect.pageClause? (dialect : Dialect) (limit offset : Option UInt64) : Option PageClause :=
  match dialect, limit, offset with
  | _, none, none => none
  | .sqlserver, limit, offset | .oracle, limit, offset =>
      some (.offsetFetch (offset.getD 0) limit)
  | .mysql, some count, some skipped => some (.skipThenCount skipped count)
  | .mysql, none, some skipped => some (.skipThenCount skipped PageClause.allRows)
  | .sqlite, none, some skipped => some (.unlimitedOffset skipped)
  | _, some count, some skipped => some (.limitOffset count skipped)
  | _, some count, none => some (.limit count)
  | _, none, some skipped => some (.offset skipped)

end BindPlan
