import BindPlan.Proofs.Outcome
import BindPlan.Template.Basic
import Mathlib.Data.List.TakeWhile

namespace BindPlan.Template

theorem Region.opened?_opener (kind : Region) (text : List Char) :
    opened? (kind.opener ++ text) = some (kind, text) := by
  cases kind <;> rfl

namespace Token

/-- The first token of a text, with the text behind it. -/
inductive Leads : List Char → Token → List Char → Prop
  | region (kind : Region) (body : List Char) :
      Leads (kind.opener ++ body) (.region (kind.opener ++ (Region.splitAfter kind.closer body).1))
        (Region.splitAfter kind.closer body).2
  | cast (rest : List Char) : Leads (':' :: ':' :: rest) (.plain [':', ':']) rest
  | braces {name : List Char} (filled : name ≠ [])
      (inside : ∀ char ∈ name, endsBracedName char = false) (rest : List Char) :
      Leads (':' :: '\x7b' :: (name ++ '\x7d' :: rest)) (.parameter .braces name) rest
  | emptyBraces (rest : List Char) :
      Leads (':' :: '\x7b' :: '\x7d' :: rest) (.plain [':', '\x7b', '\x7d']) rest
  | colon {name rest : List Char} (filled : name ≠ [])
      (inside : ∀ char ∈ name, isSeparator char = false) (bare : name.head? ≠ some '\x7b')
      (stops : rest.head?.all isSeparator = true) :
      Leads (':' :: (name ++ rest)) (.parameter .colon name) rest
  | ampersand {name rest : List Char} (filled : name ≠ [])
      (inside : ∀ char ∈ name, isSeparator char = false)
      (stops : rest.head?.all isSeparator = true) :
      Leads ('&' :: (name ++ rest)) (.parameter .ampersand name) rest
  | sign {sign : Char} {rest : List Char} (signs : sign = ':' ∨ sign = '&')
      (stops : rest.head?.all isSeparator = true) (apart : sign = ':' → rest.head? ≠ some ':') :
      Leads (sign :: rest) (.plain [sign]) rest
  | escape (rest : List Char) : Leads ('\\' :: ':' :: rest) .escapedColon rest
  | other {char : Char} {rest : List Char} (closed : Region.opened? (char :: rest) = none)
      (noSign : char ≠ ':' ∧ char ≠ '&') (noEscape : char = '\\' → rest.head? ≠ some ':') :
      Leads (char :: rest) (.plain [char]) rest

/-- A name behind a sign ends where the run of characters that are no separators ends. -/
theorem named_run (form : NameForm) (sign : Char) {name rest : List Char} (filled : name ≠ [])
    (inside : ∀ char ∈ name, isSeparator char = false) (stops : rest.head?.all isSeparator = true) :
    named form sign (name ++ rest) = (.parameter form name, rest) := by
  have kept : ∀ char ∈ name, (!isSeparator char) = true := by
    intro char member
    rw [inside char member]
    rfl
  have nothing : rest.takeWhile (fun char => !isSeparator char) = [] ∧
      rest.dropWhile (fun char => !isSeparator char) = rest := by
    cases rest with
    | nil => exact ⟨rfl, rfl⟩
    | cons char rest =>
        have separates : isSeparator char = true := stops
        rw [List.takeWhile_cons, List.dropWhile_cons, separates]
        exact ⟨rfl, rfl⟩
  unfold named
  rw [List.takeWhile_append_of_pos kept, List.dropWhile_append_of_pos kept, nothing.1, nothing.2,
    List.append_nil]
  simp [filled]

/-- A sign in front of a character that ends a name, or at the end, is plain text. -/
theorem named_of_ends (form : NameForm) (sign : Char) {text : List Char}
    (ends : text.head?.all isSeparator = true) : named form sign text = (plain [sign], text) := by
  have nothing : text.takeWhile (fun char => !isSeparator char) = [] := by
    cases text with
    | nil => rfl
    | cons char text =>
        have separates : isSeparator char = true := ends
        rw [List.takeWhile_cons, separates]
        rfl
  rw [named, nothing]
  rfl

/-- A text is a run of characters that are no separators and a text that starts with a separator. -/
theorem exists_run (text : List Char) :
    ∃ name rest, text = name ++ rest ∧ (∀ char ∈ name, isSeparator char = false) ∧
      rest.head?.all isSeparator = true := by
  refine ⟨text.takeWhile fun char => !isSeparator char, text.dropWhile fun char => !isSeparator char,
    List.takeWhile_append_dropWhile.symm, ?_, ?_⟩
  · intro char member
    simpa using List.mem_takeWhile_imp member
  · have stops := List.head?_dropWhile_not (fun char => !isSeparator char) text
    cases first : (text.dropWhile fun char => !isSeparator char).head? with
    | none => rfl
    | some char =>
        rw [first] at stops
        simpa using stops

theorem braced_run {name : List Char} (inside : ∀ char ∈ name, endsBracedName char = false)
    (rest : List Char) : braced (name ++ '\x7d' :: rest) =
      .ok (if name.isEmpty then .plain [':', '\x7b', '\x7d'] else .parameter .braces name, rest) := by
  have kept : ∀ char ∈ name, (!endsBracedName char) = true := by
    intro char member
    rw [inside char member]
    rfl
  unfold braced
  rw [List.takeWhile_append_of_pos kept, List.dropWhile_append_of_pos kept]
  have stops : endsBracedName '\x7d' = true := by decide
  simp [stops]

theorem exists_of_braced {text rest : List Char} {token : Token}
    (reads : braced text = .ok (token, rest)) :
    ∃ name, text = name ++ '\x7d' :: rest ∧ ∀ char ∈ name, endsBracedName char = false := by
  have whole := List.takeWhile_append_dropWhile (p := fun char => !endsBracedName char) (l := text)
  refine ⟨text.takeWhile fun char => !endsBracedName char, ?_, ?_⟩
  · unfold braced at reads
    simp only at reads
    split at reads
    · cases reads
    · rename_i behind
      cases reads
      rw [← behind, whole]
    · cases reads
  · intro char member
    simpa using List.mem_takeWhile_imp member

/-- A colon that starts neither a cast nor a name in braces is a sign. -/
theorem next_colon {text : List Char} (noCast : text.head? ≠ some ':')
    (noBrace : text.head? ≠ some '\x7b') : next ':' text = .ok (named .colon ':' text) := by
  cases text with
  | nil => rfl
  | cons char text =>
      have closed : Region.opened? (':' :: char :: text) = none := rfl
      unfold next
      rw [closed]
      split
      · rename_i opened
        cases opened
      · split <;> simp_all

theorem Leads.next {char : Char} {chars rest : List Char} {token : Token}
    (leads : Leads (char :: chars) token rest) : Token.next char chars = .ok (token, rest) := by
  generalize whole : char :: chars = text at leads
  cases leads with
  | region kind body =>
      have opens := Region.opened?_opener kind body
      rw [← whole] at opens
      unfold Token.next
      rw [opens]
  | cast rest =>
      cases whole
      rfl
  | braces filled inside rest =>
      cases whole
      change braced _ = _
      rw [braced_run inside, if_neg (by simpa using filled)]
  | emptyBraces rest =>
      cases whole
      rfl
  | @colon name rest filled inside bare stops =>
      obtain ⟨first, others, rfl⟩ := List.exists_cons_of_ne_nil filled
      cases whole
      have noCast : first ≠ ':' := by
        rintro rfl
        cases inside ':' List.mem_cons_self
      rw [next_colon (by simpa using noCast) (by simpa using bare),
        named_run .colon ':' filled inside stops]
  | ampersand filled inside stops =>
      cases whole
      exact congrArg Except.ok (named_run .ampersand '&' filled inside stops)
  | @sign _ rest signs stops apart =>
      cases whole
      rcases signs with rfl | rfl
      · have noBrace : chars.head? ≠ some '\x7b' := by
          intro starts
          rw [starts] at stops
          cases stops
        rw [next_colon (apart rfl) noBrace, named_of_ends .colon ':' stops]
      · exact congrArg Except.ok (named_of_ends .ampersand '&' stops)
  | escape rest =>
      cases whole
      rfl
  | other closed noSign noEscape =>
      cases whole
      unfold Token.next
      rw [closed]
      split
      · rename_i opened
        cases opened
      · split <;> simp_all

theorem leads_of_next {char : Char} {chars rest : List Char} {token : Token}
    (reads : Token.next char chars = .ok (token, rest)) : Leads (char :: chars) token rest := by
  unfold Token.next at reads
  split at reads
  · rename_i kind body opens
    cases reads
    rw [Region.eq_append_of_opened? opens]
    exact .region kind body
  · rename_i closed
    split at reads
    · cases reads
      exact .cast _
    · obtain ⟨name, rfl, inside⟩ := exists_of_braced reads
      rw [braced_run inside] at reads
      cases reads
      split
      · rename_i empty
        rw [List.isEmpty_iff.mp empty]
        exact .emptyBraces _
      · rename_i filled
        exact .braces (by simpa using filled) inside _
    · rename_i noCast noBrace
      obtain ⟨name, behind, rfl, inside, stops⟩ := exists_run chars
      by_cases filled : name = []
      · subst filled
        rw [List.nil_append] at reads noCast ⊢
        rw [named_of_ends .colon ':' stops] at reads
        cases reads
        refine .sign (.inl rfl) stops fun _ starts => ?_
        obtain ⟨others, same⟩ := List.head?_eq_some_iff.mp starts
        exact noCast others same
      · rw [named_run .colon ':' filled inside stops] at reads
        cases reads
        refine .colon filled inside (fun starts => ?_) stops
        obtain ⟨others, rfl⟩ := List.head?_eq_some_iff.mp starts
        exact noBrace (others ++ rest) rfl
    · obtain ⟨name, behind, rfl, inside, stops⟩ := exists_run chars
      by_cases filled : name = []
      · subst filled
        rw [List.nil_append] at reads ⊢
        rw [named_of_ends .ampersand '&' stops] at reads
        cases reads
        exact .sign (.inr rfl) stops fun same => absurd same (by decide)
      · rw [named_run .ampersand '&' filled inside stops] at reads
        cases reads
        exact .ampersand filled inside stops
    · cases reads
      exact .escape _
    · rename_i noColon noAmpersand noCast noBrace noEscape
      cases reads
      refine .other closed ⟨noColon, noAmpersand⟩ fun same starts => ?_
      obtain ⟨others, ahead⟩ := List.head?_eq_some_iff.mp starts
      exact noEscape others same ahead

section Leads

variable {text rest : List Char} {token : Token}

theorem Leads.exists_cons (leads : Leads text token rest) : ∃ char chars, text = char :: chars := by
  cases leads with
  | region kind body => cases kind <;> exact ⟨_, _, rfl⟩
  | _ => exact ⟨_, _, rfl⟩

theorem Leads.append (leads : Leads text token rest) : token.source ++ rest = text := by
  obtain ⟨char, chars, rfl⟩ := leads.exists_cons
  exact next_append leads.next

theorem Leads.source_ne_nil (leads : Leads text token rest) : token.source ≠ [] := by
  obtain ⟨char, chars, rfl⟩ := leads.exists_cons
  exact source_ne_nil_of_next leads.next

theorem Leads.scan (leads : Leads text token rest) (position : Nat) :
    Template.scan position text =
      (token :: ·) <$> Template.scan (position + Text.byteLength token.source) rest := by
  obtain ⟨char, chars, rfl⟩ := leads.exists_cons
  exact scan_of_next leads.next position

end Leads

end Token

/-- The text is read as a row of tokens. -/
inductive Scanned : List Char → List Token → Prop
  | done : Scanned [] []
  | token {text rest : List Char} {token : Token} {following : List Token}
      (leads : token.Leads text rest) (behind : Scanned rest following) :
      Scanned text (token :: following)

/-- A text is scanned, at any position, where it is read as a row of tokens. -/
theorem scan_eq_ok_iff {position : Nat} {text : List Char} {tokens : List Token} :
    scan position text = .ok tokens ↔ Scanned text tokens := by
  constructor
  · intro scanned
    induction position, text using scan.induct generalizing tokens with
    | case1 position =>
        rw [scan] at scanned
        cases scanned
        exact .done
    | case2 position char chars fault reads =>
        rw [scan_of_fault reads] at scanned
        cases scanned
    | case3 position char chars token rest reads shorter inductionHypothesis =>
        rw [scan_of_next reads] at scanned
        obtain ⟨following, tail, rfl⟩ := map_eq_ok.mp scanned
        exact .token (Token.leads_of_next reads) (inductionHypothesis tail)
  · intro scanned
    induction scanned generalizing position with
    | done => rw [scan]
    | @token text rest token following leads _ inductionHypothesis =>
        rw [leads.scan]
        exact map_eq_ok.mpr ⟨following, inductionHypothesis, rfl⟩

theorem parse_eq_ok_iff {text : String} {template : Template} :
    parse text = .ok template ↔ Scanned text.toList template.tokens := by
  rw [parse, map_eq_ok]
  constructor
  · rintro ⟨tokens, scanned, rfl⟩
    exact scan_eq_ok_iff.mp scanned
  · intro scanned
    exact ⟨template.tokens, scan_eq_ok_iff.mpr scanned, rfl⟩

namespace Scanned

variable {text : List Char} {tokens : List Token}

/-- The tokens of a text make up the text. -/
theorem sources (scanned : Scanned text tokens) : tokens.flatMap Token.source = text := by
  induction scanned with
  | done => rfl
  | token leads _ inductionHypothesis => rw [List.flatMap_cons, inductionHypothesis, leads.append]

/-- Each token stands at the start of what was left of the text. -/
theorem exists_leads (scanned : Scanned text tokens) :
    ∀ token ∈ tokens, ∃ ahead rest, token.Leads ahead rest := by
  induction scanned with
  | done => simp
  | token leads _ inductionHypothesis =>
      rw [List.forall_mem_cons]
      exact ⟨⟨_, _, leads⟩, inductionHypothesis⟩

theorem source_ne_nil (scanned : Scanned text tokens) : ∀ token ∈ tokens, token.source ≠ [] := by
  intro token member
  obtain ⟨ahead, rest, leads⟩ := scanned.exists_leads token member
  exact leads.source_ne_nil

theorem eq_nil (scanned : Scanned [] tokens) : tokens = [] := by
  cases scanned with
  | done => rfl
  | token leads behind =>
      obtain ⟨char, chars, same⟩ := leads.exists_cons
      cases same

end Scanned

theorem Token.Leads.scanned_iff {text rest : List Char} {token : Token} {tokens : List Token}
    (leads : token.Leads text rest) :
    Scanned text tokens ↔ ∃ following, Scanned rest following ∧ tokens = token :: following := by
  constructor
  · rintro (_ | ⟨other, behind⟩)
    · obtain ⟨char, chars, same⟩ := leads.exists_cons
      cases same
    · obtain ⟨char, chars, rfl⟩ := leads.exists_cons
      cases leads.next.symm.trans other.next
      exact ⟨_, behind, rfl⟩
  · rintro ⟨following, behind, rfl⟩
    exact .token leads behind

end BindPlan.Template
