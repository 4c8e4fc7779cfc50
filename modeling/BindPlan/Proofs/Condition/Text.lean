import BindPlan.Proofs.Condition.Grammar
import BindPlan.Proofs.Fragment
import BindPlan.Proofs.Outcome
import BindPlan.Statement.Writer
import Mathlib.Data.List.Chain

namespace BindPlan

/-- A character of a condition text, or the whole text of an atom. -/
inductive Glyph where
  | char (char : Char)
  | atom (atom : Atom)
deriving DecidableEq, Repr

namespace Glyph

/-- The positive test of a glyph, if it is one. -/
def test? : Glyph → Option Test
  | char _ => none
  | atom found => some found.test

/-- The lexeme of a word. Without glyphs there is none. -/
def word? : List Glyph → Option (List Lexeme)
  | [] => some []
  | [.atom found] => some [.atom found]
  | [.char 'N', .char 'O', .char 'T'] => some [.not]
  | [.char 'A', .char 'N', .char 'D'] => some [.and]
  | [.char 'O', .char 'R'] => some [.or]
  | _ => none

/-- The lexemes of a text, of which a part of the first word is read already. -/
def lexemesFrom (word : List Glyph) : List Glyph → Option (List Lexeme)
  | [] => word? word
  | .char ' ' :: rest => do return (← word? word) ++ (← lexemesFrom [] rest)
  | .char '(' :: rest => do return (← word? word) ++ .opening :: (← lexemesFrom [] rest)
  | .char ')' :: rest => do return (← word? word) ++ .closing :: (← lexemesFrom [] rest)
  | glyph :: rest => lexemesFrom (word ++ [glyph]) rest

/-- A blank or a parenthesis behind an atom ends the word of the atom. -/
theorem lexemesFrom_delimiter {found : Atom} {char : Char} {rest : List Glyph}
    (delimits : char ∈ [' ', '(', ')']) :
    lexemesFrom [.atom found] (.char char :: rest) =
      (.atom found :: ·) <$> lexemesFrom [] (.char char :: rest) := by
  simp only [List.mem_cons, List.not_mem_nil, or_false] at delimits
  rcases delimits with rfl | rfl | rfl <;>
    simp only [lexemesFrom, word?] <;> cases lexemesFrom [] rest <;> rfl

/-- The text parses to the formula. -/
def Parses (text : List Glyph) (formula : Formula) : Prop :=
  ∃ lexemes, lexemesFrom [] text = some lexemes ∧ Derives .disjunction lexemes formula

/-- A text parses to at most one formula. -/
theorem Parses.unique {text : List Glyph} {first second : Formula} (one : Parses text first)
    (other : Parses text second) : second = first := by
  obtain ⟨lexemes, read, derives⟩ := one
  obtain ⟨lexemes', read', derives'⟩ := other
  rw [read] at read'
  rw [← Option.some.inj read'] at derives'
  exact derives.unique derives'

end Glyph

namespace Lexeme

/-- The glyphs of a written lexeme. -/
def glyphs : Lexeme → List Glyph
  | opening => [.char '(']
  | closing => [.char ')']
  | not => [.char 'N', .char 'O', .char 'T', .char ' ']
  | and => [.char ' ', .char 'A', .char 'N', .char 'D', .char ' ']
  | or => [.char ' ', .char 'O', .char 'R', .char ' ']
  | atom found => [.atom found]

/-- An atom runs into an atom or a NOT that stands right behind it. -/
def Apart : Lexeme → Lexeme → Prop
  | atom _, atom _ | atom _, not => False
  | _, _ => True

theorem lexemesFrom_atom {found : Atom} {rest : List Lexeme}
    (apart : (.atom found :: rest).IsChain Apart) :
    Glyph.lexemesFrom [.atom found] (rest.flatMap glyphs) =
      (.atom found :: ·) <$> Glyph.lexemesFrom [] (rest.flatMap glyphs) := by
  cases rest with
  | nil => rfl
  | cons next rest =>
      have follows := (List.isChain_cons_cons.mp apart).1
      cases next with
      | not => exact follows.elim
      | atom => exact follows.elim
      | _ => exact Glyph.lexemesFrom_delimiter (by decide)

theorem apart_append {first second : List Lexeme} {lexeme : Lexeme}
    (delimits : ∀ last, Apart last lexeme) (before : first.IsChain Apart)
    (behind : (lexeme :: second).IsChain Apart) : (first ++ lexeme :: second).IsChain Apart := by
  apply before.append behind
  intro last _ next same
  cases same
  exact delimits last

/-- The glyphs of lexemes that do not run into each other are read as these lexemes. -/
theorem lexemesFrom_glyphs {lexemes : List Lexeme} (apart : lexemes.IsChain Apart) :
    Glyph.lexemesFrom [] (lexemes.flatMap glyphs) = some lexemes := by
  induction lexemes with
  | nil => rfl
  | cons lexeme rest inductionHypothesis =>
      have tail := inductionHypothesis apart.tail
      cases lexeme with
      | atom found =>
          rw [List.flatMap_cons]
          change Glyph.lexemesFrom [.atom found] (rest.flatMap glyphs) = _
          rw [lexemesFrom_atom apart, tail]
          rfl
      | _ => simp [glyphs, Glyph.lexemesFrom, Glyph.word?, tail]

end Lexeme

namespace Writer

/-- The text of an expression. -/
def text (writer : Writer) (expression : Expression) : String := (writer.expression expression).sql

/-- The words of an atom around the texts of its expressions. -/
def wording (writer : Writer) : Atom → String
  | .plain (.compare comparison left right) =>
      writer.text left ++ " " ++ comparison.sql ++ " " ++ writer.text right
  | .plain (.contains left right) => writer.text left ++ " @> " ++ writer.text right
  | .plain (.isIn operand values) =>
      writer.text operand ++ " IN (" ++ ", ".intercalate (values.map writer.text) ++ ")"
  | .plain (.between operand low high) =>
      writer.text operand ++ " BETWEEN " ++ writer.text low ++ " AND " ++ writer.text high
  | .plain (.isNull operand) => writer.text operand ++ " IS NULL"
  | .plain (.isNotNull operand) => writer.text operand ++ " IS NOT NULL"
  | .notIn operand values =>
      writer.text operand ++ " NOT IN (" ++ ", ".intercalate (values.map writer.text) ++ ")"
  | .notBetween operand low high =>
      writer.text operand ++ " NOT BETWEEN " ++ writer.text low ++ " AND " ++ writer.text high

/-- The text that glyphs stand for in a dialect. -/
def spell (writer : Writer) : List Glyph → String
  | [] => ""
  | .char char :: rest => String.singleton char ++ writer.spell rest
  | .atom atom :: rest => writer.wording atom ++ writer.spell rest

theorem sql_expressions (writer : Writer) (expressions : List Expression) :
    (writer.expressions expressions).sql = ", ".intercalate (expressions.map writer.text) := by
  rw [Writer.expressions, Fragment.sql_joined, List.map_map]
  rfl

/-- A written atom has the words of the atom. -/
theorem sql_atom (writer : Writer) {atom : Atom} {fragment : Fragment}
    (written : writer.atom atom = .ok fragment) : fragment.sql = writer.wording atom := by
  cases atom with
  | plain test =>
      cases test with
      | contains left right =>
          rw [Writer.atom, Writer.test] at written
          split at written <;> cases written
          simp [wording, text, String.append_assoc]
      | _ =>
          cases written
          simp [wording, text, Writer.listed, Writer.ranged, sql_expressions, String.append_assoc]
  | _ =>
      cases written
      simp [wording, text, Writer.listed, Writer.ranged, sql_expressions, String.append_assoc]

/-- A written lexeme is spelled by its glyphs, whatever stands behind it. -/
theorem spell_lexeme (writer : Writer) {lexeme : Lexeme} {fragment : Fragment}
    (written : writer.lexeme lexeme = .ok fragment) (rest : List Glyph) :
    writer.spell (lexeme.glyphs ++ rest) = fragment.sql ++ writer.spell rest := by
  cases lexeme with
  | atom found =>
      rw [Lexeme.glyphs, List.singleton_append, spell, writer.sql_atom written]
  | _ =>
      cases written
      simp only [Lexeme.glyphs, List.cons_append, List.nil_append, spell, Fragment.sql_ofText]
      apply String.toList_inj.mp
      simp

/-- The glyphs of written lexemes spell the text of these lexemes. -/
theorem spell_glyphs (writer : Writer) {lexemes : List Lexeme} {fragment : Fragment}
    (written : writer.lexemes lexemes = .ok fragment) :
    writer.spell (lexemes.flatMap Lexeme.glyphs) = fragment.sql := by
  induction lexemes generalizing fragment with
  | nil =>
      cases written
      rfl
  | cons lexeme rest inductionHypothesis =>
      obtain ⟨first, head, written⟩ := bind_eq_ok.mp written
      obtain ⟨second, tail, written⟩ := bind_eq_ok.mp written
      cases written
      rw [List.flatMap_cons, writer.spell_lexeme head, inductionHypothesis tail,
        Fragment.sql_append]

end Writer

end BindPlan
