import BindPlan.Dialect.Basic

namespace BindPlan.Dialect

def openingQuote : Dialect → Char
  | mysql => '\x60'
  | sqlserver => '['
  | _ => '"'

def closingQuote : Dialect → Char
  | mysql => '\x60'
  | sqlserver => ']'
  | _ => '"'

/-- The characters with each closing quote doubled. -/
def doubleQuotes (closing : Char) (name : List Char) : List Char :=
  name.flatMap fun char => if char = closing then [closing, closing] else [char]

/-- The name as a quoted identifier of the dialect. -/
def quoteIdentifier (dialect : Dialect) (name : String) : String :=
  String.ofList
    (dialect.openingQuote :: doubleQuotes dialect.closingQuote name.toList
      ++ [dialect.closingQuote])

end BindPlan.Dialect
