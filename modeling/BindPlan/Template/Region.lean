namespace BindPlan.Template

/-- A part of a text in which parameters have no meaning. It runs from its opener through its
closer, or to the end of the text if it is not closed. -/
inductive Region where
  | singleQuoted
  | doubleQuoted
  | lineComment
  | blockComment
deriving DecidableEq, Repr

namespace Region

def opener : Region → List Char
  | singleQuoted => ['\'']
  | doubleQuoted => ['"']
  | lineComment => ['-', '-']
  | blockComment => ['/', '*']

def closer : Region → List Char
  | singleQuoted => ['\'']
  | doubleQuoted => ['"']
  | lineComment => ['\n']
  | blockComment => ['*', '/']

/-- The region that a text opens, with the text behind the opener. -/
def opened? : List Char → Option (Region × List Char)
  | '\'' :: rest => some (singleQuoted, rest)
  | '"' :: rest => some (doubleQuoted, rest)
  | '-' :: '-' :: rest => some (lineComment, rest)
  | '/' :: '*' :: rest => some (blockComment, rest)
  | _ => none

/-- The text through the first closer, and the text behind it. -/
def splitAfter (closer : List Char) : List Char → List Char × List Char
  | [] => ([], [])
  | char :: rest =>
      if closer.isPrefixOf (char :: rest) then (closer, (char :: rest).drop closer.length)
      else
        let parts := splitAfter closer rest
        (char :: parts.1, parts.2)

theorem splitAfter_append (closer text : List Char) :
    (splitAfter closer text).1 ++ (splitAfter closer text).2 = text := by
  induction text with
  | nil => rfl
  | cons char rest inductionHypothesis =>
      unfold splitAfter
      split
      · rename_i found
        obtain ⟨tail, same⟩ := List.isPrefixOf_iff_prefix.mp found
        simp [← same]
      · simp [inductionHypothesis]

theorem eq_append_of_opened? {text rest : List Char} {region : Region}
    (opens : opened? text = some (region, rest)) : text = region.opener ++ rest := by
  unfold opened? at opens
  split at opens <;> cases opens <;> rfl

end Region

end BindPlan.Template
