import BindPlan.Proofs.Template.Opaque
import Mathlib.Tactic.FinCases

namespace BindPlan.Template

open Text

/-- A region of a text, or a character outside the regions. -/
inductive Stretch where
  | region (text : List Char)
  | bare (char : Char)
deriving DecidableEq, Repr

theorem Region.length_splitAfter_le {kind : Region} {char : Char} {text body : List Char}
    (opens : opened? (char :: text) = some (kind, body)) :
    (splitAfter kind.closer body).2.length ≤ text.length := by
  have parts := congrArg List.length (splitAfter_append kind.closer body)
  have whole := congrArg List.length (eq_append_of_opened? opens)
  have filled : 0 < kind.opener.length := by cases kind <;> decide
  simp only [List.length_append, List.length_cons] at parts whole
  omega

/-- The regions of a text and the characters outside of them. Parameters and escapes have no meaning
here. -/
def stretches : List Char → List Stretch
  | [] => []
  | char :: text =>
      match opens : Region.opened? (char :: text) with
      | some (kind, body) =>
          have := Region.length_splitAfter_le opens
          .region (kind.opener ++ (Region.splitAfter kind.closer body).1) ::
            stretches (Region.splitAfter kind.closer body).2
      | none => .bare char :: stretches text
termination_by text => text.length
decreasing_by all_goals simp only [List.length_cons]; omega

theorem stretches_opener (kind : Region) (body : List Char) :
    stretches (kind.opener ++ body) =
      .region (kind.opener ++ (Region.splitAfter kind.closer body).1) ::
        stretches (Region.splitAfter kind.closer body).2 := by
  have opens := Region.opened?_opener kind body
  obtain ⟨char, text, starts⟩ : ∃ char text, kind.opener ++ body = char :: text := by
    cases kind <;> exact ⟨_, _, rfl⟩
  rw [starts] at opens ⊢
  rw [stretches]
  split
  · rename_i found
    rw [opens] at found
    cases found
    rfl
  · rename_i found
    rw [opens] at found
    cases found

theorem stretches_bare {char : Char} {text : List Char}
    (closed : Region.opened? (char :: text) = none) :
    stretches (char :: text) = .bare char :: stretches text := by
  rw [stretches]
  split
  · rename_i found
    rw [closed] at found
    cases found
  · rfl

/-- A character that is in no opener. -/
def Neutral (char : Char) : Prop := ∀ kind : Region, char ∉ kind.opener

theorem neutral_iff {char : Char} : Neutral char ↔ char ∉ ['\'', '"', '-', '/', '*'] := by
  constructor
  · intro neutral sign
    fin_cases sign
    · exact neutral .singleQuoted (by decide)
    · exact neutral .doubleQuoted (by decide)
    · exact neutral .lineComment (by decide)
    · exact neutral .blockComment (by decide)
    · exact neutral .blockComment (by decide)
  · intro apart kind sign
    cases kind <;> simp_all [Region.opener]

namespace Region

/-- Two characters decide whether a text opens a region. -/
theorem opened?_eq_none {char : Char} {text : List Char} :
    opened? (char :: text) = none ↔ char ≠ '\'' ∧ char ≠ '"' ∧
      (char = '-' → text.head? ≠ some '-') ∧ (char = '/' → text.head? ≠ some '*') := by
  cases text with
  | nil =>
      unfold opened?
      split <;> simp_all
  | cons next text =>
      unfold opened?
      split <;> simp_all

theorem opened?_of_neutral {char : Char} (neutral : Neutral char) (text : List Char) :
    opened? (char :: text) = none := by
  simp only [neutral_iff, List.mem_cons, List.not_mem_nil, or_false, not_or] at neutral
  obtain ⟨single, double, dash, slash, _⟩ := neutral
  rw [opened?_eq_none]
  exact ⟨single, double, fun same => absurd same dash, fun same => absurd same slash⟩

/-- A character that opens no region opens none in front of a neutral character either. -/
theorem opened?_before {char : Char} {text other : List Char} (closed : opened? (char :: text) = none)
    (ahead : other.head? = text.head? ∨ ∀ next ∈ other.head?, Neutral next) :
    opened? (char :: other) = none := by
  rw [opened?_eq_none] at closed ⊢
  obtain ⟨single, double, dash, slash⟩ := closed
  rcases ahead with same | neutral
  · rw [same]
    exact ⟨single, double, dash, slash⟩
  · refine ⟨single, double, fun _ starts => ?_, fun _ starts => ?_⟩
    · exact neutral '-' starts lineComment (by decide)
    · exact neutral '*' starts blockComment (by decide)

end Region

/-- Neutral characters stay outside the regions. -/
theorem stretches_neutral {shown : List Char} (neutral : ∀ char ∈ shown, Neutral char)
    (text : List Char) : stretches (shown ++ text) = shown.map .bare ++ stretches text := by
  induction shown with
  | nil => rfl
  | cons char shown inductionHypothesis =>
      rw [List.cons_append, stretches_bare (Region.opened?_of_neutral (neutral char List.mem_cons_self) _),
        inductionHypothesis fun other member => neutral other (List.mem_cons_of_mem _ member)]
      rfl

namespace Token

/-- The text may stand in place of the token: text that holds no sign of an opener in place of a
parameter, and the output in place of any other token. -/
def Shown : Token → List Char → Prop
  | parameter _ _, shown => shown ≠ [] ∧ ∀ char ∈ shown, Neutral char
  | token, shown => shown = token.output

/-- What stands in place of a token, as a region or as characters outside the regions. -/
def stretches : Token → List Char → List Stretch
  | region _, shown => [.region shown]
  | _, shown => shown.map .bare

/-- What stands in place of a token starts as the token does, or with a neutral character. -/
theorem Shown.head {token : Token} {shown : List Char} (stands : token.Shown shown)
    (filled : token.source ≠ []) :
    shown ≠ [] ∧ (shown.head? = token.source.head? ∨ ∀ next ∈ shown.head?, Neutral next) := by
  cases token with
  | region text =>
      cases stands
      exact ⟨filled, .inl rfl⟩
  | plain text =>
      cases stands
      exact ⟨filled, .inl rfl⟩
  | escapedColon =>
      cases stands
      refine ⟨by decide, .inr fun next starts => ?_⟩
      cases starts
      exact neutral_iff.mpr (by decide)
  | parameter form name =>
      exact ⟨stands.1, .inr fun next starts => stands.2 next (List.mem_of_mem_head? starts)⟩

/-- What stands in place of the first token makes the stretches of that token, whatever stands in place
of the tokens behind it. -/
theorem stretches_append {text rest shown behind : List Char} {token : Token}
    (leads : Leads text token rest) (stands : token.Shown shown)
    (ahead : behind.head? = rest.head? ∨ ∀ next ∈ behind.head?, Neutral next)
    (ends : rest = [] → behind = []) :
    Template.stretches (shown ++ behind) = token.stretches shown ++ Template.stretches behind := by
  cases leads with
  | region kind body =>
      cases stands
      rw [output, List.append_assoc, stretches_opener, Region.splitAfter_before kind ends]
      rfl
  | braces | colon | ampersand => exact stretches_neutral stands.2 behind
  | cast | emptyBraces | escape =>
      cases stands
      exact stretches_neutral (by simp [output, neutral_iff]) behind
  | sign signs =>
      cases stands
      rcases signs with rfl | rfl <;> exact stretches_neutral (by simp [output, neutral_iff]) behind
  | other closed =>
      cases stands
      exact stretches_bare (Region.opened?_before closed ahead)

end Token

/-- What stands in place of tokens starts with the character that their text starts with, or with a
neutral one. -/
theorem head?_shown {text : List Char} {tokens : List Token} (scanned : Scanned text tokens)
    {texts : List (List Char)} (shown : List.Forall₂ Token.Shown tokens texts) :
    texts.flatten.head? = text.head? ∨ ∀ next ∈ texts.flatten.head?, Neutral next := by
  cases scanned with
  | done =>
      cases shown
      exact .inl rfl
  | token leads =>
      obtain ⟨first, others, stands, _, rfl⟩ := List.forall₂_cons_left_iff.mp shown
      obtain ⟨visible, starts⟩ := stands.head leads.source_ne_nil
      rw [← leads.append, List.flatten_cons, List.head?_append_of_ne_nil _ visible,
        List.head?_append_of_ne_nil _ leads.source_ne_nil]
      exact starts

/-- The regions of a text stay where its parameters give way to neutral text. -/
theorem stretches_shown {text : List Char} {tokens : List Token} (scanned : Scanned text tokens)
    {texts : List (List Char)} (shown : List.Forall₂ Token.Shown tokens texts) :
    stretches texts.flatten = (List.zipWith Token.stretches tokens texts).flatten := by
  induction scanned generalizing texts with
  | done =>
      cases shown
      rw [List.flatten_nil, stretches]
      rfl
  | @token text rest token following leads behind inductionHypothesis =>
      obtain ⟨first, others, stands, shownBehind, rfl⟩ := List.forall₂_cons_left_iff.mp shown
      have ends : rest = [] → others.flatten = [] := by
        rintro rfl
        cases behind.eq_nil
        cases shownBehind
        rfl
      rw [List.flatten_cons, List.zipWith_cons_cons, List.flatten_cons,
        ← inductionHypothesis shownBehind]
      exact Token.stretches_append leads stands (head?_shown behind shownBehind) ends

/-- The text of a region. -/
def Stretch.region? : Stretch → Option (List Char)
  | .region text => some text
  | .bare _ => none

/-- The byte positions of a character outside the regions of a text that stands at a byte position. -/
def sitesFrom (sign : Char) (position : Nat) : List Stretch → List Nat
  | [] => []
  | .region text :: rest => sitesFrom sign (position + byteLength text) rest
  | .bare char :: rest =>
      let following := sitesFrom sign (position + char.utf8Size) rest
      if char = sign then position :: following else following

/-- The texts of the regions of a text. -/
def regionsOf (text : String) : List (List Char) :=
  (stretches text.toList).filterMap Stretch.region?

/-- The byte positions of a character outside the regions of a text. -/
def sitesOf (sign : Char) (text : String) : List Nat := sitesFrom sign 0 (stretches text.toList)

/-- The text of a region that a token is. -/
def Token.region? : Token → Option (List Char)
  | .region text => some text
  | _ => none

/-- The texts of the literals and comments that were skipped in the text of a template. -/
def regions (template : Template) : List (List Char) := template.tokens.filterMap Token.region?

theorem filterMap_bare (shown : List Char) :
    (shown.map Stretch.bare).filterMap Stretch.region? = [] := by
  induction shown with
  | nil => rfl
  | cons char shown inductionHypothesis => exact inductionHypothesis

/-- The regions of what stands in place of tokens are the regions among the tokens. -/
theorem regions_shown {tokens : List Token} {texts : List (List Char)}
    (shown : List.Forall₂ Token.Shown tokens texts) :
    (List.zipWith Token.stretches tokens texts).flatten.filterMap Stretch.region? =
      tokens.filterMap Token.region? := by
  induction shown with
  | nil => rfl
  | @cons token text tokens texts stands rest inductionHypothesis =>
      rw [List.zipWith_cons_cons, List.flatten_cons, List.filterMap_append, inductionHypothesis,
        List.filterMap_cons]
      cases token with
      | region text =>
          cases stands
          rfl
      | _ => exact congrArg (· ++ tokens.filterMap Token.region?) (filterMap_bare text)

theorem sitesFrom_bare (sign : Char) (position : Nat) (shown : List Char) (rest : List Stretch) :
    sitesFrom sign position (shown.map .bare ++ rest) =
      sitesFrom sign position (shown.map .bare) ++
        sitesFrom sign (position + byteLength shown) rest := by
  induction shown generalizing position with
  | nil => rfl
  | cons char shown inductionHypothesis =>
      rw [List.map_cons, List.cons_append, sitesFrom, sitesFrom, inductionHypothesis, byteLength_cons,
        Nat.add_assoc]
      split <;> rfl

theorem sitesFrom_absent {sign : Char} {shown : List Char} (absent : sign ∉ shown) (position : Nat) :
    sitesFrom sign position (shown.map .bare) = [] := by
  induction shown generalizing position with
  | nil => rfl
  | cons char shown inductionHypothesis =>
      rw [List.mem_cons, not_or] at absent
      rw [List.map_cons, sitesFrom, if_neg (Ne.symm absent.1)]
      exact inductionHypothesis absent.2 _

end BindPlan.Template
