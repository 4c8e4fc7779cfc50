import BindPlan.Template.Token

/-!
Templates: statement texts whose parameters are located. A template is the list of its tokens; its
rewritten text, its parameter occurrences and its names are views of that list.
-/

namespace BindPlan

namespace Template

/-- The tokens of a text that stands at a byte position of the whole text. A token that cannot be
read is reported at the position where it starts. -/
def scan (position : Nat) : List Char → Except Error (List Token)
  | [] => .ok []
  | char :: text =>
      match reads : Token.next char text with
      | .error fault => .error (.malformedTemplate fault position)
      | .ok (token, rest) =>
          have := Token.length_le_of_next reads
          (token :: ·) <$> scan (position + Text.byteLength token.source) rest
termination_by text => text.length
decreasing_by simp only [List.length_cons]; omega

/-- A text that starts with a token is that token and the tokens of the text behind it. -/
theorem scan_of_next {char : Char} {text rest : List Char} {token : Token}
    (reads : Token.next char text = .ok (token, rest)) (position : Nat) :
    scan position (char :: text) =
      (token :: ·) <$> scan (position + Text.byteLength token.source) rest := by
  rw [scan]
  split
  · rename_i fault other
    rw [reads] at other
    cases other
  · rename_i found behind other
    rw [reads] at other
    cases other
    rfl

theorem scan_of_fault {char : Char} {text : List Char} {fault : TemplateFault}
    (reads : Token.next char text = .error fault) (position : Nat) :
    scan position (char :: text) = .error (.malformedTemplate fault position) := by
  rw [scan]
  split
  · rename_i found other
    rw [reads] at other
    cases other
    rfl
  · rename_i found behind other
    rw [reads] at other
    cases other

/-- A parameter in the rewritten text of a template, with the bytes that it takes there. -/
structure Occurrence where
  name : String
  start : Nat
  stop : Nat
deriving DecidableEq, Repr

/-- The name of a parameter token. -/
def Token.name? : Token → Option String
  | .parameter _ name => some (String.ofList name)
  | _ => none

/-- The occurrences in a row of tokens whose output starts at a byte position. -/
def occurrencesFrom (position : Nat) : List Token → List Occurrence
  | [] => []
  | token :: rest =>
      let stop := position + Text.byteLength token.output
      let following := occurrencesFrom stop rest
      match token.name? with
      | some name => ⟨name, position, stop⟩ :: following
      | none => following

/-- The occurrences of a row of tokens are those of its first part and then those of the rest. -/
theorem occurrencesFrom_append (position : Nat) (first second : List Token) :
    occurrencesFrom position (first ++ second) = occurrencesFrom position first ++
      occurrencesFrom (position + Text.byteLength (first.flatMap Token.output)) second := by
  induction first generalizing position with
  | nil => rfl
  | cons token rest inductionHypothesis =>
      rw [List.cons_append, occurrencesFrom, occurrencesFrom, inductionHypothesis,
        List.flatMap_cons, Text.byteLength_append, Nat.add_assoc]
      cases token.name? <;> rfl

end Template

/-- A statement text with its parameters located. -/
structure Template where
  tokens : List Template.Token
deriving DecidableEq, Repr

namespace Template

def parse (text : String) : Except Error Template :=
  Template.mk <$> scan 0 text.toList

/-- The characters of the text with its escapes removed. -/
def rewrittenChars (template : Template) : List Char := template.tokens.flatMap Token.output

/-- The text with its escapes removed. The positions of occurrences refer to it. -/
def rewritten (template : Template) : String := String.ofList template.rewrittenChars

def occurrences (template : Template) : List Occurrence := occurrencesFrom 0 template.tokens

/-- The names of the occurrences in textual order. -/
def occurringNames (template : Template) : List String := template.tokens.filterMap Token.name?

/-- The distinct names in the order of their first occurrence. -/
def names (template : Template) : List String := template.occurringNames.eraseDups

end Template

end BindPlan
