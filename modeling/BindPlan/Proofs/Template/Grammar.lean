import BindPlan.Error
import BindPlan.Proofs.Text.Search
import BindPlan.Text.Bytes

namespace BindPlan.Template.Grammar

open Text

/-- A stretch of bytes that is read at once, with what it stands for. -/
structure Lexeme where
  source : List UInt8
  output : List UInt8
  name? : Option (List UInt8)
deriving DecidableEq, Repr

namespace Lexeme

/-- Bytes that stand for themselves. -/
def copy (bytes : List UInt8) : Lexeme := ⟨bytes, bytes, none⟩

/-- An escape, which stands for a colon. -/
def escape : Lexeme := ⟨utf8 "\\:", utf8 ":", none⟩

/-- Bytes of a parameter with its name. -/
def parameter (name bytes : List UInt8) : Lexeme := ⟨bytes, bytes, some name⟩

end Lexeme

/-- What is read at the start of some bytes: a lexeme with the bytes behind it, or a fault. -/
abbrev Reading := Except TemplateFault (Lexeme × List UInt8)

/-- A rule tells what may be read at the start of some bytes. -/
abbrev Rule := List UInt8 → Reading → Prop

/-- The openers of skip regions with their closers. -/
def regions : List (List UInt8 × List UInt8) :=
  [(utf8 "'", utf8 "'"), (utf8 "\"", utf8 "\""), (utf8 "--", utf8 "\n"), (utf8 "/*", utf8 "*/")]

/-- The bytes that end a name without braces. -/
def separators : List UInt8 := utf8 " \t\n\x0c\r\"':&,;()|=+-*%/\\<>^"

/-- The bytes that a name in braces cannot hold. -/
def stops : List UInt8 := utf8 ":\x7b\x7d"

/-- A region runs through its first closer, or to the end of the bytes. -/
inductive SkipRegion : Rule
  | closed {opener closer body rest : List UInt8} (kind : (opener, closer) ∈ regions)
      (first : First closer body rest) :
      SkipRegion (opener ++ (body ++ closer ++ rest)) (.ok (.copy (opener ++ body ++ closer), rest))
  | unclosed {opener closer body : List UInt8} (kind : (opener, closer) ∈ regions)
      (never : ¬ closer <:+: body) :
      SkipRegion (opener ++ body) (.ok (.copy (opener ++ body), []))

/-- One lexeme wherever its source stands. -/
inductive Fixed (lexeme : Lexeme) : Rule
  | read (rest : List UInt8) : Fixed lexeme (lexeme.source ++ rest) (.ok (lexeme, rest))

/-- Two colons are a cast. -/
def Cast : Rule := Fixed (.copy (utf8 "::"))

/-- A name in braces behind a colon. Empty braces are plain text, and another colon, another opening
brace or the end of the bytes before the closing brace is a fault. -/
inductive Braced : Rule
  | parameter {name : List UInt8} (filled : name ≠ []) (inside : ∀ byte ∈ name, byte ∉ stops)
      (rest : List UInt8) :
      Braced (utf8 ":\x7b" ++ (name ++ (utf8 "\x7d" ++ rest)))
        (.ok (.parameter name (utf8 ":\x7b" ++ name ++ utf8 "\x7d"), rest))
  | empty (rest : List UInt8) :
      Braced (utf8 ":\x7b" ++ (utf8 "\x7d" ++ rest)) (.ok (.copy (utf8 ":\x7b\x7d"), rest))
  | colon {body : List UInt8} (inside : ∀ byte ∈ body, byte ∉ stops) (rest : List UInt8) :
      Braced (utf8 ":\x7b" ++ (body ++ (utf8 ":" ++ rest))) (.error (.forbiddenInName ':'))
  | brace {body : List UInt8} (inside : ∀ byte ∈ body, byte ∉ stops) (rest : List UInt8) :
      Braced (utf8 ":\x7b" ++ (body ++ (utf8 "\x7b" ++ rest))) (.error (.forbiddenInName '\x7b'))
  | unterminated {body : List UInt8} (inside : ∀ byte ∈ body, byte ∉ stops) :
      Braced (utf8 ":\x7b" ++ body) (.error .unterminatedName)

/-- A colon or an ampersand with the longest run of bytes that are no separators. -/
inductive Named : Rule
  | read {sign name rest : List UInt8} (signs : sign ∈ [utf8 ":", utf8 "&"]) (filled : name ≠ [])
      (run : ∀ byte ∈ name, byte ∉ separators) (longest : ∀ byte ∈ rest.head?, byte ∈ separators) :
      Named (sign ++ (name ++ rest)) (.ok (.parameter name (sign ++ name), rest))

/-- A backslash in front of a colon. -/
def Escape : Rule := Fixed .escape

/-- Any other byte. -/
inductive Other : Rule
  | read (byte : UInt8) (rest : List UInt8) : Other (byte :: rest) (.ok (.copy [byte], rest))

/-- The first rule of a list that applies gives the reading. -/
inductive FirstOf (bytes : List UInt8) : List Rule → Reading → Prop
  | applies {rule : Rule} {reading : Reading} (rules : List Rule) (reads : rule bytes reading) :
      FirstOf bytes (rule :: rules) reading
  | passes {rule : Rule} {rules : List Rule} {reading : Reading}
      (refuses : ∀ other, ¬ rule bytes other) (later : FirstOf bytes rules reading) :
      FirstOf bytes (rule :: rules) reading

/-- The rules in the order in which they are tried. -/
def rules : List Rule := [SkipRegion, Cast, Braced, Named, Escape, Other]

/-- Bytes at a position are read from left to right, up to the end or to the first fault, which is
reported at its position. -/
inductive Scans : Nat → List UInt8 → Except Error (List Lexeme) → Prop
  | done (position : Nat) : Scans position [] (.ok [])
  | lexeme {position : Nat} {byte : UInt8} {bytes rest : List UInt8} {lexeme : Lexeme}
      {outcome : Except Error (List Lexeme)}
      (reads : FirstOf (byte :: bytes) rules (.ok (lexeme, rest)))
      (following : Scans (position + lexeme.source.length) rest outcome) :
      Scans position (byte :: bytes) (outcome.map (lexeme :: ·))
  | fault {position : Nat} {byte : UInt8} {bytes : List UInt8} {fault : TemplateFault}
      (reads : FirstOf (byte :: bytes) rules (.error fault)) :
      Scans position (byte :: bytes) (.error (.malformedTemplate fault position))

end BindPlan.Template.Grammar
