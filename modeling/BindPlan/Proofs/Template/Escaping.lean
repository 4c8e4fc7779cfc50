import BindPlan.Proofs.Template.Splice
import BindPlan.Proofs.Template.Stretches

namespace BindPlan

namespace Template

open Text

namespace Stretch

/-- The text of a stretch. -/
def text : Stretch → List Char
  | region text => text
  | bare char => [char]

/-- The text of a stretch, with a backslash in front of a colon outside the regions. -/
def escaped : Stretch → List Char
  | region text => text
  | bare char => if char = ':' then ['\\', ':'] else [char]

/-- What an escaped stretch is read as. -/
def token : Stretch → Token
  | region text => .region text
  | bare char => if char = ':' then .escapedColon else .plain [char]

theorem output_token (stretch : Stretch) : stretch.token.output = stretch.text := by
  cases stretch with
  | region text => rfl
  | bare char =>
      rw [token]
      split
      · rename_i colon
        rw [colon]
        rfl
      · rfl

theorem name?_token (stretch : Stretch) : stretch.token.name? = none := by
  cases stretch with
  | region text => rfl
  | bare char =>
      rw [token]
      split <;> rfl

end Stretch

def escapeChars (text : List Char) : List Char := (stretches text).flatMap Stretch.escaped

/-- The text with a backslash in front of each colon outside its regions. -/
def escape (text : String) : String := String.ofList (escapeChars text.toList)

/-- Every ampersand outside the regions stands in front of a character that ends a name, or at the end. -/
def isNameless : List Stretch → Bool
  | [] => true
  | .bare '&' :: rest =>
      (rest.flatMap Stretch.text).head?.all Token.isSeparator && isNameless rest
  | _ :: rest => isNameless rest

theorem flatMap_text (text : List Char) : (stretches text).flatMap Stretch.text = text := by
  fun_induction stretches text with
  | case1 => rfl
  | case2 char text kind body opens shorter inductionHypothesis =>
      rw [List.flatMap_cons, inductionHypothesis, Stretch.text, List.append_assoc,
        Region.splitAfter_append, Region.eq_append_of_opened? opens]
  | case3 char text closed inductionHypothesis =>
      rw [List.flatMap_cons, inductionHypothesis]
      rfl

/-- An escaped text starts as the text does, or with a backslash where the text starts with a colon. -/
theorem head?_escapeChars (text : List Char) :
    (escapeChars text).head? = text.head? ∧ text.head? ≠ some ':' ∨
      (escapeChars text).head? = some '\\' := by
  cases text with
  | nil =>
      rw [escapeChars, stretches]
      exact .inl ⟨rfl, by simp⟩
  | cons char text =>
      cases opens : Region.opened? (char :: text) with
      | some opened =>
          obtain ⟨kind, body⟩ := opened
          rw [escapeChars, Region.eq_append_of_opened? opens, stretches_opener]
          cases kind <;> exact .inl ⟨rfl, by simp [Region.opener]⟩
      | none =>
          rw [escapeChars, stretches_bare opens, List.flatMap_cons, Stretch.escaped]
          by_cases colon : char = ':'
          · rw [if_pos colon]
            exact .inr rfl
          · rw [if_neg colon]
            exact .inl ⟨rfl, by simpa using colon⟩

theorem isNameless_cons {stretch : Stretch} {rest : List Stretch}
    (nameless : isNameless (stretch :: rest) = true) :
    isNameless rest = true ∧
      (stretch = .bare '&' → (rest.flatMap Stretch.text).head?.all Token.isSeparator = true) := by
  unfold isNameless at nameless
  split at nameless <;> simp_all

/-- A character outside the regions that is no colon is read by itself in front of an escaped text. -/
theorem Token.leads_escapeChars {char : Char} {text : List Char}
    (closed : Region.opened? (char :: text) = none) (apart : char ≠ ':')
    (ends : char = '&' → text.head?.all isSeparator = true) :
    Leads (char :: escapeChars text) (.plain [char]) (escapeChars text) := by
  have starts := head?_escapeChars text
  by_cases ampersand : char = '&'
  · subst ampersand
    refine .sign (.inr rfl) ?_ fun same => absurd same apart
    rcases starts with ⟨same, _⟩ | backslash
    · rw [same]
      exact ends rfl
    · rw [backslash]
      rfl
  · rcases starts with ⟨same, noColon⟩ | backslash
    · exact .other (Region.opened?_before closed (.inl same)) ⟨apart, ampersand⟩ fun _ => same ▸ noColon
    · have neutral : ∀ next ∈ (escapeChars text).head?, Neutral next := by
        rw [backslash]
        simp [neutral_iff]
      exact .other (Region.opened?_before closed (.inr neutral)) ⟨apart, ampersand⟩ fun _ => by simp [backslash]

/-- An escaped text is read stretch by stretch. -/
theorem scan_escapeChars (text : List Char) (nameless : isNameless (stretches text) = true)
    (position : Nat) : scan position (escapeChars text) = .ok ((stretches text).map Stretch.token) := by
  fun_induction stretches text generalizing position with
  | case1 =>
      rw [escapeChars, stretches, List.flatMap_nil, scan]
      rfl
  | case2 char text kind body opens shorter inductionHypothesis =>
      obtain ⟨following, _⟩ := isNameless_cons nameless
      have reads := inductionHypothesis following
      rw [escapeChars, Region.eq_append_of_opened? opens, stretches_opener, List.flatMap_cons,
        Stretch.escaped, ← escapeChars]
      -- A region without its closer takes the rest of the text, so no escape stands behind it.
      have ends : (Region.splitAfter kind.closer body).2 = [] →
          escapeChars (Region.splitAfter kind.closer body).2 = [] := by
        intro nothing
        rw [nothing, escapeChars, stretches, List.flatMap_nil]
      rw [List.append_assoc, scan_opener, Region.splitAfter_before kind ends, reads]
      rfl
  | case3 char text closed inductionHypothesis =>
      obtain ⟨following, ends⟩ := isNameless_cons nameless
      have reads := inductionHypothesis following
      rw [escapeChars, stretches_bare closed, List.flatMap_cons, ← escapeChars, List.map_cons,
        Stretch.escaped, Stretch.token]
      by_cases colon : char = ':'
      · rw [if_pos colon, if_pos colon, List.cons_append, List.cons_append, List.nil_append,
          (Token.Leads.escape _).scan, reads]
        rfl
      · have plain := Token.leads_escapeChars closed colon fun ampersand => by
          rw [flatMap_text] at ends
          exact ends (congrArg _ ampersand)
        rw [if_neg colon, if_neg colon, List.cons_append, List.nil_append, plain.scan, reads]
        rfl

end Template

namespace Expansion

/-- Text alone is copied. -/
theorem placeTokens_texts {tokens : List Template.Token} (texts : ∀ token ∈ tokens, token.name? = none)
    (source : Source) (allocator : Allocator) :
    placeTokens source tokens allocator = .ok (tokens.map fun token => .text token.output) := by
  induction tokens with
  | nil => rfl
  | cons token rest inductionHypothesis =>
      rw [placeTokens_text (texts token List.mem_cons_self),
        inductionHypothesis fun other member => texts other (List.mem_cons_of_mem token member)]
      rfl

theorem sql_texts (tokens : List Template.Token) (supplied : List (String × BindValue)) :
    (Expansion.mk (tokens.map fun token => .text token.output) supplied).sql =
      (Template.mk tokens).rewritten := by
  rw [sql, fragment, Template.rewritten, Template.rewrittenChars]
  induction tokens with
  | nil => rfl
  | cons token rest inductionHypothesis =>
      rw [List.map_cons, List.flatMap_cons, Fragment.sql_append, inductionHypothesis,
        List.flatMap_cons, String.ofList_append, Piece.fragment, Fragment.sql_ofText]

theorem occurrences_texts (tokens : List Template.Token) (supplied : List (String × BindValue)) :
    (Expansion.mk (tokens.map fun token => .text token.output) supplied).occurrences = [] := by
  rw [occurrences, List.filterMap_map]
  exact List.filterMap_eq_nil_iff.mpr fun token _ => rfl

end Expansion

namespace Template

/-- A template without parameters stands for its text in every style and with every source. -/
theorem expand_texts {template : Template} (texts : ∀ token ∈ template.tokens, token.name? = none)
    (style : MarkerStyle) (source : Source) :
    ∃ expansion, template.expand style source = .ok expansion ∧
      expansion.sql = template.rewritten ∧ ∃ prepared, expansion.finish = .ok prepared ∧
        prepared.sql = template.rewritten ∧ prepared.bindings = [] := by
  have names : template.names = [] := by
    rw [Template.names, occurringNames, List.filterMap_eq_nil_iff.mpr texts]
    rfl
  let expansion : Expansion := ⟨template.tokens.map fun token => .text token.output, []⟩
  have expanded : template.expand style source = .ok expansion := by
    rw [expand, Expansion.placeTokens_texts texts, names]
    rfl
  have finished : expansion.finish = .ok ⟨expansion.fragment, [], none⟩ := by
    rw [Expansion.finish, Expansion.occurrences_texts]
    rfl
  have same : expansion.sql = template.rewritten := Expansion.sql_texts template.tokens []
  exact ⟨expansion, expanded, same, _, finished, same, rfl⟩

/-- A text whose colons are escaped is a template without parameters. It stands for the text itself,
which is prepared without bindings in every style and with every source. -/
theorem parse_escape (text : String) (nameless : isNameless (stretches text.toList) = true) :
    ∃ template, parse (escape text) = .ok template ∧ template.occurrences = [] ∧
      template.rewritten = text ∧ ∀ (style : MarkerStyle) (source : Source),
        ∃ expansion, template.expand style source = .ok expansion ∧ expansion.sql = text ∧
          ∃ prepared, expansion.finish = .ok prepared ∧ prepared.sql = text ∧
            prepared.bindings = [] := by
  let tokens := (stretches text.toList).map Stretch.token
  have parsed : parse (escape text) = .ok ⟨tokens⟩ := by
    rw [parse, escape, String.toList_ofList, scan_escapeChars text.toList nameless]
    rfl
  have texts : ∀ token ∈ tokens, token.name? = none := by
    intro token member
    obtain ⟨stretch, _, rfl⟩ := List.mem_map.mp member
    exact stretch.name?_token
  have occurrences : (Template.mk tokens).occurrences = [] := by
    have names := names_occurrencesFrom 0 tokens
    rw [List.filterMap_eq_nil_iff.mpr texts] at names
    exact List.map_eq_nil_iff.mp names
  have rewritten : (Template.mk tokens).rewritten = text := by
    rw [Template.rewritten, rewrittenChars, List.flatMap_map]
    simp only [Stretch.output_token, flatMap_text, String.ofList_toList]
  have expands := expand_texts texts
  rw [rewritten] at expands
  exact ⟨⟨tokens⟩, parsed, occurrences, rewritten, expands⟩

/-- Backslashes, casts and braces stand in front of names, a colon next to the signs of openers, and an
ampersand in front of a colon. The comment is not closed. -/
theorem parse_escape_abutting :
    let text := "\\\\:a ::b:\x7bit's :x' :\"y:z\" -:-/:é&:c& --:d\n:/* &e :f"
    let escaped := "\\\\\\:a \\:\\:b\\:\x7bit's :x' \\:\"y:z\" -\\:-/\\:é&\\:c& --:d\n\\:/* &e :f"
    escape text = escaped ∧ isNameless (stretches text.toList) = true ∧
      ∃ template, parse escaped = .ok template ∧ template.occurrences = [] ∧
        template.rewritten = text ∧ ∀ (style : MarkerStyle) (source : Source),
          ∃ expansion, template.expand style source = .ok expansion ∧ expansion.sql = text ∧
            ∃ prepared, expansion.finish = .ok prepared ∧ prepared.sql = text ∧
              prepared.bindings = [] := by
  intro text escaped
  have escapes : escape text = escaped := by decide +kernel
  have nameless : isNameless (stretches text.toList) = true := by decide +kernel
  have parsed := parse_escape text nameless
  rw [escapes] at parsed
  exact ⟨escapes, nameless, parsed⟩

end Template

end BindPlan
