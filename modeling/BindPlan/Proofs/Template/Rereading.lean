import BindPlan.Proofs.Template.Escaping

namespace BindPlan.Template

open Text

/-- The text is read as itself, with the given occurrences. -/
def Rereads (position : Nat) (text : List Char) (occurrences : List Occurrence) : Prop :=
  ∃ tokens, Scanned text tokens ∧ tokens.flatMap Token.output = text ∧
    occurrencesFrom position tokens = occurrences

section Rereads

variable {position : Nat} {text rest : List Char} {occurrences : List Occurrence} {token : Token}
  {form : NameForm} {name : List Char}

theorem rereads_nil : Rereads position [] [] := ⟨[], .done, rfl, rfl⟩

theorem Rereads.start (rereads : Rereads position text occurrences) :
    ∀ occurrence ∈ occurrences, position ≤ occurrence.start := by
  obtain ⟨tokens, _, _, rfl⟩ := rereads
  exact fun occurrence member => (occurrencesFrom_bounds occurrence member).1

/-- A text is reread from its first token on. -/
theorem rereads_of_leads (leads : token.Leads text rest) :
    Rereads position text occurrences ↔ ∃ following, Scanned rest following ∧
      (token :: following).flatMap Token.output = token.source ++ rest ∧
      occurrencesFrom position (token :: following) = occurrences := by
  rw [Rereads, leads.append]
  constructor
  · rintro ⟨tokens, scanned, outputs, occurring⟩
    obtain ⟨following, behind, rfl⟩ := leads.scanned_iff.mp scanned
    exact ⟨following, behind, outputs, occurring⟩
  · rintro ⟨following, behind, outputs, occurring⟩
    exact ⟨token :: following, .token leads behind, outputs, occurring⟩

/-- Text that stays as it is is passed over. -/
theorem rereads_text (leads : token.Leads text rest) (copied : token.source = token.output)
    (unnamed : token.name? = none) :
    Rereads position text occurrences ↔
      Rereads (position + byteLength token.output) rest occurrences := by
  have occurring (following : List Token) : occurrencesFrom position (token :: following) =
      occurrencesFrom (position + byteLength token.output) following := by
    rw [occurrencesFrom, unnamed]
  simp only [rereads_of_leads leads, copied, List.flatMap_cons, List.append_cancel_left_eq, occurring]
  rfl

theorem rereads_parameter (leads : (Token.parameter form name).Leads text rest) :
    Rereads position text (⟨String.ofList name, position,
        position + byteLength (Token.parameterText form name)⟩ :: occurrences) ↔
      Rereads (position + byteLength (Token.parameterText form name)) rest occurrences := by
  have occurring (following : List Token) :
      occurrencesFrom position (.parameter form name :: following) =
        ⟨String.ofList name, position, position + byteLength (Token.parameterText form name)⟩ ::
          occurrencesFrom (position + byteLength (Token.parameterText form name)) following := rfl
  simp only [rereads_of_leads leads, Token.source, List.flatMap_cons, Token.output,
    List.append_cancel_left_eq, occurring, List.cons.injEq, true_and]
  rfl

/-- A parameter at the start of a text is an occurrence there. -/
theorem not_rereads_parameter (leads : (Token.parameter form name).Leads text rest)
    (behind : ∀ occurrence ∈ occurrences, position < occurrence.start) :
    ¬ Rereads position text occurrences := by
  rw [rereads_of_leads leads]
  rintro ⟨following, _, _, rfl⟩
  exact absurd (behind _ List.mem_cons_self) (Nat.lt_irrefl position)

/-- An escape is not read as itself. -/
theorem not_rereads_escape (rest : List Char) :
    ¬ Rereads position ('\\' :: ':' :: rest) occurrences := by
  rw [rereads_of_leads (.escape rest)]
  rintro ⟨following, _, outputs, _⟩
  cases outputs

/-- A colon in front of another separator is passed over. -/
theorem rereads_colon (stops : text.head?.all Token.isSeparator = true)
    (apart : text.head? ≠ some ':') :
    Rereads position (':' :: text) occurrences ↔ Rereads (position + 1) text occurrences :=
  rereads_text (.sign (.inl rfl) stops fun _ => apart) rfl rfl

/-- Two colons are passed over. -/
theorem rereads_cast :
    Rereads position (':' :: ':' :: text) occurrences ↔ Rereads (position + 2) text occurrences :=
  rereads_text (.cast text) rfl rfl

/-- A colon in front of anything else than a separator or empty braces starts a parameter. -/
theorem not_rereads_colon {char : Char} {chars : List Char}
    (joins : Token.isSeparator char = false) (filled : ¬ (char = '\x7b' ∧ chars.head? = some '\x7d'))
    (behind : ∀ occurrence ∈ occurrences, position < occurrence.start) :
    ¬ Rereads position (':' :: char :: chars) occurrences := by
  generalize whole : ':' :: char :: chars = text
  intro rereads
  have ⟨tokens, scanned, _⟩ := rereads
  cases scanned with
  | done => cases whole
  | token leads =>
      cases leads with
      | region kind body => cases kind <;> cases whole
      | cast rest =>
          cases whole
          cases joins
      | braces named inside => exact not_rereads_parameter (.braces named inside _) behind rereads
      | emptyBraces rest =>
          cases whole
          exact filled ⟨rfl, rfl⟩
      | colon named inside bare stops =>
          exact not_rereads_parameter (.colon named inside bare stops) behind rereads
      | ampersand named inside stops => cases whole
      | sign signs stops apart =>
          cases whole
          cases joins.symm.trans stops
      | escape rest => cases whole
      | other closed noSign noEscape =>
          cases whole
          exact noSign.1 rfl

end Rereads

namespace Token

/-- Whether the output up to the end of the token ends in a colon without a partner. Colons in a row are
paired from the left. -/
def oddBehind (odd : Bool) : Token → Bool
  | escapedColon | plain [':'] => !odd
  | plain [':', ':'] => odd
  | _ => false

/-- The token is read again from the output of a row of tokens. Behind a colon without a partner a
parameter loses its own colon to that one, and other text becomes a name, unless a separator or empty
braces follow. A backslash in front of a colon whose own backslash was removed is an escape. -/
def settles (odd : Bool) (rest : List Token) : Token → Bool
  | region _ | escapedColon | parameter .ampersand _ => true
  | parameter _ _ => !odd
  | plain ['\\'] => rest.head? != some escapedColon
  | plain ['\x7b'] => !odd || (rest.flatMap output).head? == some '\x7d'
  | plain text => !odd || text.head?.any isSeparator

end Token

/-- All tokens are read again from the output of the row. -/
def settled (odd : Bool) : List Token → Bool
  | [] => true
  | token :: rest => token.settles odd rest && settled (token.oddBehind odd) rest

/-- The output of tokens starts as their text does, or with a colon in place of the backslash in front
of it. -/
theorem head?_outputs {text : List Char} {tokens : List Token} (scanned : Scanned text tokens) :
    (tokens.flatMap Token.output).head? = text.head? ∧ tokens.head? ≠ some .escapedColon ∨
      (tokens.flatMap Token.output).head? = some ':' ∧ tokens.head? = some .escapedColon := by
  cases scanned with
  | done => exact .inl ⟨rfl, by simp⟩
  | @token _ _ token _ leads =>
      by_cases escape : token = .escapedColon
      · subst escape
        exact .inr ⟨rfl, rfl⟩
      · have copied : token.output = token.source := by cases token <;> simp_all [Token.output, Token.source]
        refine .inl ⟨?_, by simpa using escape⟩
        rw [List.flatMap_cons, copied, List.head?_append_of_ne_nil _ leads.source_ne_nil, ← leads.append,
          List.head?_append_of_ne_nil _ leads.source_ne_nil]

theorem stops_outputs {text : List Char} {tokens : List Token} (scanned : Scanned text tokens)
    (stops : text.head?.all Token.isSeparator = true) :
    (tokens.flatMap Token.output).head?.all Token.isSeparator = true := by
  rcases head?_outputs scanned with ⟨same, _⟩ | ⟨colon, _⟩
  · rwa [same]
  · rw [colon]
    rfl

/-- Reading the output of the tokens again, alone or behind a colon without a partner, succeeds where the
tokens are settled. -/
structure Decides (tokens : List Token) : Prop where
  even : ∀ start, Rereads start (tokens.flatMap Token.output) (occurrencesFrom start tokens) ↔
    settled false tokens = true
  odd : ∀ start, Rereads start (':' :: tokens.flatMap Token.output)
    (occurrencesFrom (start + 1) tokens) ↔ settled true tokens = true

namespace Decides

variable {following : List Token}

theorem nil : Decides [] where
  even _ := iff_of_true rereads_nil rfl
  odd _ := iff_of_true ((rereads_colon rfl (by simp)).mpr rereads_nil) rfl

/-- Text that starts with a separator other than a colon leaves the colon in front of it alone. -/
theorem of_even {token : Token} {first : Char} (starts : token.output.head? = some first)
    (separates : Token.isSeparator first = true) (apart : first ≠ ':')
    (settles : settled true (token :: following) = settled false (token :: following))
    (even : ∀ start, Rereads start ((token :: following).flatMap Token.output)
      (occurrencesFrom start (token :: following)) ↔ settled false (token :: following) = true) :
    Decides (token :: following) where
  even := even
  odd start := by
    have head : ((token :: following).flatMap Token.output).head? = some first := by
      rw [List.flatMap_cons, List.head?_append, starts]
      rfl
    rw [rereads_colon (by rw [head]; exact separates) (by rw [head]; simpa using apart), settles]
    exact even (start + 1)

theorem region (kind : Region) (body : List Char)
    (ends : (Region.splitAfter kind.closer body).2 = [] → following.flatMap Token.output = [])
    (decides : Decides following) :
    Decides (.region (kind.opener ++ (Region.splitAfter kind.closer body).1) :: following) := by
  have leads := Token.Leads.region kind
    ((Region.splitAfter kind.closer body).1 ++ following.flatMap Token.output)
  rw [Region.splitAfter_before kind ends, ← List.append_assoc] at leads
  obtain ⟨first, starts, separates, apart⟩ : ∃ first, kind.opener.head? = some first ∧
      Token.isSeparator first = true ∧ first ≠ ':' := by
    cases kind <;> exact ⟨_, rfl, by decide, by decide⟩
  refine of_even ?_ separates apart rfl fun start => ?_
  · rw [Token.output, List.head?_append, starts]
    rfl
  · exact (rereads_text leads rfl rfl).trans (decides.even _)

theorem cast (decides : Decides following) : Decides (.plain [':', ':'] :: following) where
  even start := rereads_cast.trans (decides.even (start + 2))
  odd start := by
    have behind := rereads_cast.trans (decides.odd (start + 2))
    rw [Nat.add_right_comm] at behind
    exact behind

/-- A colon alone, with or without its backslash, is the partner of a colon in front of it. -/
theorem colonText {token : Token} (colon : token = .escapedColon ∨ token = .plain [':'])
    (decides : Decides following) : Decides (token :: following) := by
  rcases colon with rfl | rfl
  · exact ⟨decides.odd, fun start => rereads_cast.trans (decides.even (start + 2))⟩
  · exact ⟨decides.odd, fun start => rereads_cast.trans (decides.even (start + 2))⟩

/-- Behind a colon without a partner, the colon of a parameter is not read as its sign. -/
theorem not_rereads_paired {position : Nat} {text : List Char} (form : NameForm) (name : List Char) :
    ¬ Rereads position (':' :: ':' :: text)
      (occurrencesFrom (position + 1) (.parameter form name :: following)) := by
  rw [rereads_cast]
  intro rereads
  have start : position + 2 ≤ position + 1 := rereads.start _ List.mem_cons_self
  omega

theorem braces {name : List Char} (filled : name ≠ [])
    (inside : ∀ char ∈ name, Token.endsBracedName char = false) (decides : Decides following) :
    Decides (.parameter .braces name :: following) := by
  have whole : (Token.parameter .braces name :: following).flatMap Token.output =
      ':' :: '\x7b' :: (name ++ '\x7d' :: following.flatMap Token.output) := by
    simp [Token.output, Token.parameterText]
  refine ⟨fun start => ?_, fun start => ?_⟩
  · rw [whole]
    exact (rereads_parameter (.braces filled inside _)).trans (decides.even _)
  · rw [whole]
    exact iff_of_false (not_rereads_paired .braces name) (by simp [settled, Token.settles])

theorem colon {name : List Char} (filled : name ≠ [])
    (inside : ∀ char ∈ name, Token.isSeparator char = false) (bare : name.head? ≠ some '\x7b')
    (stops : (following.flatMap Token.output).head?.all Token.isSeparator = true)
    (decides : Decides following) : Decides (.parameter .colon name :: following) where
  even _ := (rereads_parameter (.colon filled inside bare stops)).trans (decides.even _)
  odd _ := iff_of_false (not_rereads_paired .colon name) (by simp [settled, Token.settles])

theorem ampersand {name : List Char} (filled : name ≠ [])
    (inside : ∀ char ∈ name, Token.isSeparator char = false)
    (stops : (following.flatMap Token.output).head?.all Token.isSeparator = true)
    (decides : Decides following) : Decides (.parameter .ampersand name :: following) :=
  of_even rfl (by decide) (by decide) rfl fun _ =>
    (rereads_parameter (.ampersand filled inside stops)).trans (decides.even _)

theorem ampersandText
    (stops : (following.flatMap Token.output).head?.all Token.isSeparator = true)
    (decides : Decides following) : Decides (.plain ['&'] :: following) :=
  of_even rfl (by decide) (by decide) rfl fun _ =>
    (rereads_text (.sign (.inr rfl) stops fun same => absurd same (by decide)) rfl rfl).trans
      (decides.even _)

theorem rereads_brace {position : Nat} {text : List Char} {occurrences : List Occurrence} {brace : Char}
    (either : brace = '\x7b' ∨ brace = '\x7d') :
    Rereads position (brace :: text) occurrences ↔ Rereads (position + 1) text occurrences := by
  rcases either with rfl | rfl
  · exact rereads_text (.other (Region.opened?_of_neutral (neutral_iff.mpr (by decide)) text)
      (by decide) fun same => absurd same (by decide)) rfl rfl
  · exact rereads_text (.other (Region.opened?_of_neutral (neutral_iff.mpr (by decide)) text)
      (by decide) fun same => absurd same (by decide)) rfl rfl

theorem emptyBraces (decides : Decides following) :
    Decides (.plain [':', '\x7b', '\x7d'] :: following) where
  even _ := (rereads_text (.emptyBraces _) rfl rfl).trans (decides.even _)
  odd start := by
    have behind := decides.even (start + 4)
    rw [← rereads_brace (.inr rfl), ← rereads_brace (.inl rfl), ← rereads_cast] at behind
    exact behind

theorem settled_char {char : Char} (apart : char ≠ ':') (odd : Bool) :
    settled odd (.plain [char] :: following) =
      ((if char = '\\' then following.head? != some .escapedColon
        else if char = '\x7b' then !odd || (following.flatMap Token.output).head? == some '\x7d'
        else !odd || Token.isSeparator char) && settled false following) := by
  have paired : (Token.plain [char]).oddBehind odd = false := by
    unfold Token.oddBehind
    split <;> simp_all
  rw [settled, paired]
  congr 1
  by_cases backslash : char = '\\'
  · subst backslash
    rfl
  · by_cases brace : char = '\x7b'
    · subst brace
      rfl
    · rw [if_neg backslash, if_neg brace]
      simp [Token.settles, backslash, brace]

theorem other {char : Char}
    (closed : Region.opened? (char :: following.flatMap Token.output) = none)
    (noSign : char ≠ ':' ∧ char ≠ '&')
    (escapes : char = '\\' → ((following.flatMap Token.output).head? = some ':' ↔
      following.head? = some .escapedColon))
    (decides : Decides following) : Decides (.plain [char] :: following) := by
  have even (start : Nat) : Rereads start ((Token.plain [char] :: following).flatMap Token.output)
      (occurrencesFrom start (.plain [char] :: following)) ↔
        settled false (.plain [char] :: following) = true := by
    rw [settled_char noSign.1]
    by_cases escaped : char = '\\' ∧ following.head? = some .escapedColon
    · obtain ⟨rfl, first⟩ := escaped
      obtain ⟨chars, starts⟩ := List.head?_eq_some_iff.mp ((escapes rfl).mpr first)
      refine iff_of_false ?_ (by simp [first])
      change ¬ Rereads start ('\\' :: following.flatMap Token.output) _
      rw [starts]
      exact not_rereads_escape chars
    · have leads := Token.Leads.other closed noSign fun backslash starts =>
        escaped ⟨backslash, (escapes backslash).mp starts⟩
      refine (rereads_text leads rfl rfl).trans ((decides.even _).trans ?_)
      split_ifs <;> simp_all
  by_cases separates : Token.isSeparator char = true
  · refine of_even rfl separates noSign.1 ?_ even
    rw [settled_char noSign.1, settled_char noSign.1]
    split_ifs with backslash brace
    · rfl
    · subst brace
      cases separates
    · rw [separates]
      rfl
  · refine ⟨even, fun start => ?_⟩
    rw [Bool.not_eq_true] at separates
    have noBackslash : char ≠ '\\' := by
      rintro rfl
      cases separates
    rw [settled_char noSign.1, if_neg noBackslash]
    by_cases pair : char = '\x7b' ∧ (following.flatMap Token.output).head? = some '\x7d'
    · obtain ⟨rfl, starts⟩ := pair
      obtain ⟨chars, same⟩ := List.head?_eq_some_iff.mp starts
      have behind := decides.even (start + 2)
      rw [same, rereads_brace (.inr rfl)] at behind
      have passed : Rereads start (':' :: '\x7b' :: '\x7d' :: chars) _ ↔ _ :=
        (rereads_text (.emptyBraces chars) rfl rfl).trans behind
      rw [← same] at passed
      rw [if_pos rfl, starts]
      exact passed
    · refine iff_of_false (not_rereads_colon separates pair fun occurrence member => ?_) ?_
      · exact (occurrencesFrom_bounds occurrence member).1
      · split_ifs <;> simp_all

end Decides

/-- What follows a token decides together with it, whatever the token is. -/
theorem decides_of_leads {text rest : List Char} {token : Token} (leads : token.Leads text rest)
    {following : List Token} (scanned : Scanned rest following) (decides : Decides following) :
    Decides (token :: following) := by
  have first := head?_outputs scanned
  cases leads with
  | region kind body =>
      refine .region kind body (fun ends => ?_) decides
      rw [ends] at scanned
      rw [scanned.eq_nil, List.flatMap_nil]
  | cast rest => exact decides.cast
  | braces filled inside rest => exact .braces filled inside decides
  | emptyBraces rest => exact decides.emptyBraces
  | colon filled inside bare stops =>
      exact .colon filled inside bare (stops_outputs scanned stops) decides
  | ampersand filled inside stops => exact .ampersand filled inside (stops_outputs scanned stops) decides
  | sign signs stops apart =>
      rcases signs with rfl | rfl
      · exact .colonText (.inr rfl) decides
      · exact .ampersandText (stops_outputs scanned stops) decides
  | escape rest => exact .colonText (.inl rfl) decides
  | other closed noSign noEscape =>
      have ahead : (following.flatMap Token.output).head? = rest.head? ∨
          ∀ next ∈ (following.flatMap Token.output).head?, Neutral next := by
        rcases first with ⟨same, _⟩ | ⟨colon, _⟩
        · exact .inl same
        · rw [colon]
          exact .inr fun next member => by cases member; exact neutral_iff.mpr (by decide)
      refine .other (Region.opened?_before closed ahead) noSign (fun backslash => ?_) decides
      rcases first with ⟨same, unescaped⟩ | ⟨colon, escaped⟩
      · rw [same]
        exact iff_of_false (noEscape backslash) unescaped
      · exact iff_of_true colon escaped

/-- The tokens of a text decide whether its rewritten text is read again as itself. -/
theorem Scanned.decides {text : List Char} {tokens : List Token} (scanned : Scanned text tokens) :
    Decides tokens := by
  induction scanned with
  | done => exact .nil
  | token leads behind inductionHypothesis => exact decides_of_leads leads behind inductionHypothesis

/-- The templates say the same of a text: how it is rewritten, where its parameters are, and which names
they have. -/
structure Same (first second : Template) : Prop where
  rewritten : first.rewritten = second.rewritten
  occurrences : first.occurrences = second.occurrences
  names : first.names = second.names

theorem same_iff {first second : Template} :
    first.Same second ↔ first.rewrittenChars = second.rewrittenChars ∧
      first.occurrences = second.occurrences := by
  constructor
  · intro same
    exact ⟨String.ofList_inj.mp same.rewritten, same.occurrences⟩
  · rintro ⟨rewritten, occurrences⟩
    refine ⟨congrArg String.ofList rewritten, occurrences, ?_⟩
    have occurring : first.occurringNames = second.occurringNames := by
      rw [occurringNames, occurringNames, ← names_occurrencesFrom 0, ← names_occurrencesFrom 0]
      exact congrArg _ occurrences
    rw [names, occurring, names]

/-- Parsing the rewritten text of a template again gives the same template if and only if its tokens are
settled. A template without escapes is settled. -/
theorem parse_rewritten {text : String} {template : Template} (parsed : parse text = .ok template) :
    ((∃ again, parse template.rewritten = .ok again ∧ again.Same template) ↔
      settled false template.tokens = true) ∧
    (.escapedColon ∉ template.tokens → settled false template.tokens = true) := by
  have read := parse_eq_ok_iff.mp parsed
  have rereads : (∃ again, parse template.rewritten = .ok again ∧ again.Same template) ↔
      settled false template.tokens = true := by
    rw [← read.decides.even 0, Rereads]
    simp only [parse_eq_ok_iff, same_iff, rewritten, String.toList_ofList]
    constructor
    · rintro ⟨again, reads, outputs, occurring⟩
      exact ⟨again.tokens, reads, outputs, occurring⟩
    · rintro ⟨tokens, reads, outputs, occurring⟩
      exact ⟨.mk tokens, reads, outputs, occurring⟩
  refine ⟨rereads, fun unescaped => rereads.mp ⟨template, ?_, same_iff.mpr ⟨rfl, rfl⟩⟩⟩
  have copied : template.tokens.flatMap Token.output = template.tokens.flatMap Token.source := by
    apply List.flatMap_congr
    intro token member
    cases token with
    | escapedColon => exact absurd member unescaped
    | _ => rfl
  rw [rewritten, rewrittenChars, copied, read.sources, String.ofList_toList]
  exact parsed

/-- Two escapes make a cast, an escape stands at the end, and a colon without a partner stands in front of
empty braces and of a quoted literal. -/
theorem parse_rewritten_paired :
    let text := "\\:\\::a&b\\:\x7b\x7d\\:'\\:'c::\\:"
    let template : Template := ⟨[.escapedColon, .escapedColon, .parameter .colon ['a'],
      .parameter .ampersand ['b'], .escapedColon, .plain ['\x7b'], .plain ['\x7d'], .escapedColon,
      .region "'\\:'".toList, .plain ['c'], .plain [':', ':'], .escapedColon]⟩
    parse text = .ok template ∧ settled false template.tokens = true ∧
      ∃ again, parse template.rewritten = .ok again ∧ again.Same template := by
  intro text template
  have parsed : parse text = .ok template := by decide +kernel
  have settles : settled false template.tokens = true := by decide
  exact ⟨parsed, settles, (parse_rewritten parsed).1.mpr settles⟩

/-- Without its backslash a colon in front of a letter starts a parameter. -/
theorem parse_rewritten_exposed :
    let template : Template := ⟨[.escapedColon, .plain ['a']]⟩
    let again : Template := ⟨[.parameter .colon ['a']]⟩
    parse "\\:a" = .ok template ∧ template.rewritten = ":a" ∧ template.occurrences = [] ∧
      parse template.rewritten = .ok again ∧ again.occurrences = [⟨"a", 0, 2⟩] ∧
      ¬ again.Same template := by
  intro template again
  have occurring : again.occurrences = [⟨"a", 0, 2⟩] := by decide
  refine ⟨by decide +kernel, by rfl, rfl, by decide +kernel, occurring, fun same => ?_⟩
  cases occurring.symm.trans same.occurrences

end BindPlan.Template
