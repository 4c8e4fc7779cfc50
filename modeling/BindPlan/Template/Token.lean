import BindPlan.Error
import BindPlan.Template.Region
import BindPlan.Text.Bytes

/-!
The tokens of a statement text. A parameter is a colon or an ampersand with the longest run of
characters that do not end a name, or any name in braces behind a colon. Two colons are a cast, and
a backslash keeps the colon behind it from starting a parameter.
-/

namespace BindPlan.Template

/-- The way in which a parameter is written. -/
inductive NameForm where
  | colon
  | ampersand
  | braces
deriving DecidableEq, Repr

inductive Token where
  /-- A quoted literal or a comment. -/
  | region (text : List Char)
  /-- Text that stays as it is. -/
  | plain (text : List Char)
  /-- A colon behind a backslash, which stands for the colon alone. -/
  | escapedColon
  | parameter (form : NameForm) (name : List Char)
deriving DecidableEq, Repr

namespace Token

/-- The characters other than white space that end a parameter name. -/
def punctuation : List Char :=
  ['"', '\'', ':', '&', ',', ';', '(', ')', '|', '=', '+', '-', '*', '%', '/', '\\', '<', '>', '^']

/-- The white space of ASCII that ends a parameter name. -/
def whiteSpace : List Char := [' ', '\t', '\n', '\x0c', '\r']

def isSeparator (char : Char) : Bool := whiteSpace.contains char || punctuation.contains char

/-- A name in braces ends at these characters, of which only the last closes it. -/
def endsBracedName (char : Char) : Bool := char == ':' || char == '\x7b' || char == '\x7d'

/-- The text of a parameter with its sign and its braces. -/
def parameterText : NameForm → List Char → List Char
  | .colon, name => ':' :: name
  | .ampersand, name => '&' :: name
  | .braces, name => ':' :: '\x7b' :: name ++ ['\x7d']

/-- The text that the token was read from. -/
def source : Token → List Char
  | region text | plain text => text
  | escapedColon => ['\\', ':']
  | parameter form name => parameterText form name

/-- The text that the token stands for. -/
def output : Token → List Char
  | region text | plain text => text
  | escapedColon => [':']
  | parameter form name => parameterText form name

/-- The token behind a sign: a parameter if a name follows, and else the sign alone. -/
def named (form : NameForm) (sign : Char) (text : List Char) : Token × List Char :=
  let name := text.takeWhile fun char => !isSeparator char
  if name.isEmpty then (plain [sign], text)
  else (parameter form name, text.dropWhile fun char => !isSeparator char)

/-- The token behind a colon and an opening brace. -/
def braced (text : List Char) : Except TemplateFault (Token × List Char) :=
  let name := text.takeWhile fun char => !endsBracedName char
  match text.dropWhile fun char => !endsBracedName char with
  | [] => .error .unterminatedName
  | '\x7d' :: rest =>
      .ok (if name.isEmpty then plain [':', '\x7b', '\x7d'] else parameter .braces name, rest)
  | char :: _ => .error (.forbiddenInName char)

/-- The first token of a text, and the text behind it. -/
def next (char : Char) (text : List Char) : Except TemplateFault (Token × List Char) :=
  match Region.opened? (char :: text) with
  | some (kind, body) =>
      let parts := Region.splitAfter kind.closer body
      .ok (region (kind.opener ++ parts.1), parts.2)
  | none =>
      match char, text with
      | ':', ':' :: rest => .ok (plain [':', ':'], rest)
      | ':', '\x7b' :: rest => braced rest
      | ':', _ => .ok (named .colon ':' text)
      | '&', _ => .ok (named .ampersand '&' text)
      | '\\', ':' :: rest => .ok (escapedColon, rest)
      | _, _ => .ok (plain [char], text)

theorem named_append (form : NameForm) (sign : Char) (text : List Char)
    (starts : ∀ name, parameterText form name = sign :: name) :
    (named form sign text).1.source ++ (named form sign text).2 = sign :: text := by
  unfold named
  simp only
  split
  · rfl
  · simp [source, starts]

theorem braced_append {text rest : List Char} {token : Token}
    (reads : braced text = .ok (token, rest)) :
    token.source ++ rest = ':' :: '\x7b' :: text := by
  have whole := List.takeWhile_append_dropWhile (p := fun char => !endsBracedName char) (l := text)
  unfold braced at reads
  simp only at reads
  split at reads
  · cases reads
  · rename_i behind
    rw [behind] at whole
    cases reads
    split
    · rename_i empty
      rw [List.isEmpty_iff.mp empty] at whole
      simpa [source] using whole
    · simpa [source, parameterText] using whole
  · cases reads

/-- A token and the text behind it make up the text. -/
theorem next_append {char : Char} {text rest : List Char} {token : Token}
    (reads : next char text = .ok (token, rest)) : token.source ++ rest = char :: text := by
  unfold next at reads
  split at reads
  · rename_i kind body opens
    cases reads
    rw [Region.eq_append_of_opened? opens]
    simp [source, Region.splitAfter_append]
  · split at reads
    · cases reads; rfl
    · exact braced_append reads
    · have whole := named_append .colon ':' text fun _ => rfl
      rwa [Except.ok.inj reads] at whole
    · have whole := named_append .ampersand '&' text fun _ => rfl
      rwa [Except.ok.inj reads] at whole
    · cases reads; rfl
    · cases reads; rfl

theorem named_source_ne_nil (form : NameForm) (sign : Char) (text : List Char) :
    (named form sign text).1.source ≠ [] := by
  unfold named
  simp only
  split
  · simp [source]
  · cases form <;> simp [source, parameterText]

/-- Every token is read from at least one character. -/
theorem source_ne_nil_of_next {char : Char} {text rest : List Char} {token : Token}
    (reads : next char text = .ok (token, rest)) : token.source ≠ [] := by
  unfold next at reads
  split at reads
  · rename_i kind body opens
    cases reads
    cases kind <;> simp [source, Region.opener]
  · split at reads
    · cases reads; simp [source]
    · unfold braced at reads
      simp only at reads
      split at reads
      · cases reads
      · cases reads
        split <;> simp [source, parameterText]
      · cases reads
    · have filled := named_source_ne_nil .colon ':' text
      rwa [Except.ok.inj reads] at filled
    · have filled := named_source_ne_nil .ampersand '&' text
      rwa [Except.ok.inj reads] at filled
    · cases reads; simp [source]
    · cases reads; simp [source]

/-- The text behind a token is shorter than the text before it. -/
theorem length_le_of_next {char : Char} {text rest : List Char} {token : Token}
    (reads : next char text = .ok (token, rest)) : rest.length ≤ text.length := by
  have lengths := congrArg List.length (next_append reads)
  have filled := List.length_pos_iff.mpr (source_ne_nil_of_next reads)
  simp only [List.length_append, List.length_cons] at lengths
  omega

end Token

end BindPlan.Template
