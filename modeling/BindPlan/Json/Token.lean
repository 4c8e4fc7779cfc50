import BindPlan.Json.Numeral
import BindPlan.Json.Quoted

namespace BindPlan.Json

inductive Token where
  | openBrace
  | closeBrace
  | openBracket
  | closeBracket
  | comma
  | colon
  | null
  | bool (truth : Bool)
  | numeral (numeral : Numeral)
  /-- A text in quotes. It has no content if a surrogate stands in it alone. -/
  | text (content : Option String)
  | invalid
deriving DecidableEq, Repr

namespace Token

/-- The white space between tokens. -/
def isBlank (char : Char) : Bool := [' ', '\t', '\n', '\r'].contains char

/-- The token of a word, if the text goes on with the rest of the word. -/
def word (token : Token) (ending behind : List Char) : Option (Token × List Char) :=
  if ending.isPrefixOf behind then some (token, behind.drop ending.length) else none

/-- The numeral behind a sign as a token. -/
def number (negative : Bool) (digits : List Char) : Option (Token × List Char) :=
  (Numeral.read negative digits).map fun found => (numeral found.1, found.2)

/-- The text behind an opening quote as a token. -/
def quoted (behind : List Char) : Option (Token × List Char) :=
  (Quoted.pieces behind).map fun found =>
    (text ((Quoted.decode found.1).map String.ofList), found.2)

/-- The token that starts with a character, and what stands behind it. -/
def next (char : Char) (behind : List Char) : Option (Token × List Char) :=
  match char with
  | '\x7b' => some (openBrace, behind)
  | '\x7d' => some (closeBrace, behind)
  | '[' => some (openBracket, behind)
  | ']' => some (closeBracket, behind)
  | ',' => some (comma, behind)
  | ':' => some (colon, behind)
  | 'n' => word null ['u', 'l', 'l'] behind
  | 't' => word (bool true) ['r', 'u', 'e'] behind
  | 'f' => word (bool false) ['a', 'l', 's', 'e'] behind
  | '"' => quoted behind
  | '-' => number true behind
  | _ => number false (char :: behind)

theorem length_le_of_word {token read : Token} {ending behind rest : List Char}
    (reads : word token ending behind = some (read, rest)) : rest.length ≤ behind.length := by
  unfold word at reads
  split at reads
  · cases reads
    simp
  · cases reads

theorem length_lt_of_number {negative : Bool} {token : Token} {digits rest : List Char}
    (reads : number negative digits = some (token, rest)) : rest.length < digits.length := by
  obtain ⟨found, first, same⟩ := Option.map_eq_some_iff.mp reads
  cases same
  exact Numeral.length_lt_of_read first

theorem length_le_of_quoted {token : Token} {behind rest : List Char}
    (reads : quoted behind = some (token, rest)) : rest.length ≤ behind.length := by
  obtain ⟨found, first, same⟩ := Option.map_eq_some_iff.mp reads
  cases same
  exact Nat.le_of_lt (Quoted.length_lt_of_pieces first)

theorem length_le_of_next {char : Char} {token : Token} {behind rest : List Char}
    (reads : next char behind = some (token, rest)) : rest.length ≤ behind.length := by
  unfold next at reads
  split at reads
  case h_7 | h_8 | h_9 => exact length_le_of_word reads
  case h_10 => exact length_le_of_quoted reads
  case h_11 => exact Nat.le_of_lt (length_lt_of_number reads)
  case h_12 =>
    have := length_lt_of_number reads
    simp only [List.length_cons] at this
    omega
  all_goals
    cases reads
    exact Nat.le_refl _

end Token

/-- The tokens of a text. -/
def tokens : List Char → List Token
  | [] => []
  | char :: behind =>
      if Token.isBlank char then tokens behind
      else
        match reads : Token.next char behind with
        | none => [.invalid]
        | some (token, rest) =>
            have := Token.length_le_of_next reads
            token :: tokens rest
termination_by text => text.length
decreasing_by all_goals (simp only [List.length_cons]; omega)

end BindPlan.Json
