import BindPlan.Proofs.Template.Leading
import BindPlan.Proofs.Text.Search
import BindPlan.Proofs.Text.Utf8
import Mathlib.Data.List.Infix

namespace BindPlan.Template

open Text

/-- A body between the opener and the closer of a region. -/
def Region.enclose (kind : Region) (body : List Char) : List Char :=
  kind.opener ++ (body ++ kind.closer)

/-- A region with its closer. -/
def Region.Closed (text : List Char) : Prop :=
  ∃ (kind : Region) (body : List Char), text = kind.enclose body

/-- Every region of the template is closed, so its text ends outside the regions. -/
def EndsOutside (template : Template) : Prop :=
  ∀ text, Token.region text ∈ template.tokens → Region.Closed text

/-- An occurrence that stands later in a text by a number of bytes. -/
def Occurrence.shift (offset : Nat) (occurrence : Occurrence) : Occurrence :=
  ⟨occurrence.name, occurrence.start + offset, occurrence.stop + offset⟩

/-- What is parsed of a text with a region and another text behind it, by what is parsed of the other
text alone. -/
inductive Follows (before region : String) (template : Template) :
    Except Error Template → Except Error Template → Prop
  | parsed {following whole : Template}
      (rewritten : whole.rewritten = template.rewritten ++ region ++ following.rewritten)
      (occurrences : whole.occurrences = template.occurrences ++
        following.occurrences.map (.shift (template.rewritten ++ region).utf8ByteSize)) :
      Follows before region template (.ok following) (.ok whole)
  | fault (fault : TemplateFault) (position : Nat) :
      Follows before region template (.error (.malformedTemplate fault position))
        (.error (.malformedTemplate fault (position + (before ++ region).utf8ByteSize)))

namespace Region

variable {kind : Region} {body text : List Char}

theorem enclose_append (kind : Region) (body after : List Char) :
    kind.enclose body ++ after = kind.opener ++ (body ++ kind.closer ++ after) := by
  rw [enclose, List.append_assoc]

/-- A text is closed at the first closer in it, or it holds no closer. -/
theorem closed_or_never (kind : Region) (text : List Char) :
    (∃ body rest, text = body ++ kind.closer ++ rest ∧ ¬ kind.closer <:+: body) ∨
      ¬ kind.closer <:+: text := by
  have filled : kind.closer ≠ [] := by cases kind <;> simp [closer]
  rcases first_or_never kind.closer text with ⟨body, rest, whole, first⟩ | never
  · exact .inl ⟨body, rest, whole, first.apart filled⟩
  · exact .inr never

/-- A body without the closer ends at the closer behind it. -/
theorem splitAfter_body (apart : ¬ kind.closer <:+: body) (rest : List Char) :
    splitAfter kind.closer (body ++ kind.closer ++ rest) = (body ++ kind.closer, rest) := by
  induction body with
  | nil => cases kind <;> simp [closer, splitAfter]
  | cons char body inductionHypothesis =>
      rw [List.infix_cons_iff, not_or] at apart
      -- The closers do not overlap with themselves, so none starts in the body and ends behind it.
      have elsewhere : ¬ kind.closer.isPrefixOf (char :: (body ++ kind.closer ++ rest)) = true := by
        intro here
        have starts := apart.1
        cases kind with
        | singleQuoted => simp_all [closer, List.isPrefixOf]
        | doubleQuoted => simp_all [closer, List.isPrefixOf]
        | lineComment => simp_all [closer, List.isPrefixOf]
        | blockComment =>
            cases body with
            | nil => simp_all [closer, List.isPrefixOf]
            | cons second body =>
                simp only [closer, List.isPrefixOf, List.cons_append, Bool.and_eq_true,
                  beq_iff_eq] at here
                obtain ⟨rfl, rfl, _⟩ := here
                exact starts ⟨body, rfl⟩
      rw [List.cons_append, List.cons_append, splitAfter, if_neg elsewhere,
        inductionHypothesis apart.2]

theorem splitAfter_never (never : ¬ kind.closer <:+: text) :
    splitAfter kind.closer text = (text, []) := by
  induction text with
  | nil => rfl
  | cons char text inductionHypothesis =>
      rw [List.infix_cons_iff, not_or, ← List.isPrefixOf_iff_prefix] at never
      rw [splitAfter, if_neg never.1, inductionHypothesis never.2]

/-- A text through its first closer is split there in front of any other text. Where the text has no
closer, nothing may stand behind it. -/
theorem splitAfter_before (kind : Region) {behind : List Char}
    (ends : (splitAfter kind.closer text).2 = [] → behind = []) :
    splitAfter kind.closer ((splitAfter kind.closer text).1 ++ behind) =
      ((splitAfter kind.closer text).1, behind) := by
  rcases closed_or_never kind text with ⟨body, rest, rfl, apart⟩ | never
  · rw [splitAfter_body apart, splitAfter_body apart]
  · rw [splitAfter_never never] at ends ⊢
    rw [ends rfl, List.append_nil, splitAfter_never never]

theorem opener_unique {other : Region} {first second : List Char}
    (same : kind.opener ++ first = other.opener ++ second) : kind = other ∧ first = second := by
  cases kind <;> cases other <;> simp_all [opener]

/-- Behind a closed region the text does not matter to the region. -/
theorem splitAfter_append_of_closed
    (closed : Closed (kind.opener ++ (splitAfter kind.closer text).1)) (tail : List Char) :
    splitAfter kind.closer (text ++ tail) =
      ((splitAfter kind.closer text).1, (splitAfter kind.closer text).2 ++ tail) := by
  rcases closed_or_never kind text with ⟨body, rest, rfl, apart⟩ | never
  · rw [splitAfter_body apart, List.append_assoc, splitAfter_body apart]
  · obtain ⟨other, inner, same⟩ := closed
    rw [splitAfter_never never, enclose] at same
    obtain ⟨rfl, rfl⟩ := opener_unique same
    exact absurd (List.suffix_append _ _).isInfix never

/-- An opener behind a text makes no difference to the region that the text opens, except for two
dashes behind one. -/
theorem opened?_append {char : Char} (chars more : List Char)
    (merges : ¬ (char = '-' ∧ chars = [] ∧ kind = lineComment)) :
    opened? (char :: (chars ++ (kind.opener ++ more))) =
      (opened? (char :: chars)).map fun opened => (opened.1, opened.2 ++ (kind.opener ++ more)) := by
  cases chars with
  | nil =>
      cases kind
      all_goals
        unfold opened?
        simp only [opener, List.nil_append, List.cons_append] at merges ⊢
        split <;> simp_all
  | cons second chars =>
      unfold opened?
      simp only [List.cons_append]
      split <;> simp_all

end Region

namespace Token

variable {kind : Region} {text rest : List Char} {token : Token}

theorem stops_append_opener (stops : rest.head?.all isSeparator = true) (more : List Char) :
    (rest ++ (kind.opener ++ more)).head?.all isSeparator = true := by
  cases rest with
  | nil => cases kind <;> rfl
  | cons char rest => exact stops

theorem apart_append_opener (apart : rest.head? ≠ some ':') (more : List Char) :
    (rest ++ (kind.opener ++ more)).head? ≠ some ':' := by
  cases rest with
  | nil => cases kind <;> simp [Region.opener]
  | cons char rest => exact apart

/-- A token in front of an opener is read as if the text ended there, except for a dash in front of two. -/
theorem Leads.append_opener (leads : Leads text token rest)
    (closed : ∀ body, token = .region body → Region.Closed body) (more : List Char)
    (merges : ¬ (text = ['-'] ∧ kind = .lineComment)) :
    Leads (text ++ (kind.opener ++ more)) token (rest ++ (kind.opener ++ more)) := by
  cases leads with
  | region other body =>
      have opens := Leads.region other (body ++ (kind.opener ++ more))
      rw [Region.splitAfter_append_of_closed (closed _ rfl)] at opens
      rwa [List.append_assoc]
  | cast rest => exact .cast _
  | braces filled inside rest => simpa using Leads.braces filled inside (rest ++ (kind.opener ++ more))
  | emptyBraces rest => exact .emptyBraces _
  | colon filled inside bare stops =>
      simpa using Leads.colon filled inside bare (stops_append_opener stops more)
  | ampersand filled inside stops =>
      simpa using Leads.ampersand filled inside (stops_append_opener stops more)
  | sign signs stops apart =>
      exact .sign signs (stops_append_opener stops more) fun colon => apart_append_opener (apart colon) more
  | escape rest => exact .escape _
  | @other char _ closed noSign noEscape =>
      have outside : Region.opened? (char :: (rest ++ (kind.opener ++ more))) = none := by
        rw [Region.opened?_append rest more (by simpa using merges), closed]
        rfl
      exact .other outside noSign fun backslash => apart_append_opener (noEscape backslash) more

end Token

section Scan

variable {kind : Region} {body : List Char}

/-- The region that a text opens is a token. -/
theorem scan_opener (kind : Region) (position : Nat) (text : List Char) :
    scan position (kind.opener ++ text) =
      (Token.region (kind.opener ++ (Region.splitAfter kind.closer text).1) :: ·) <$>
        scan (position + byteLength (kind.opener ++ (Region.splitAfter kind.closer text).1))
          (Region.splitAfter kind.closer text).2 :=
  (Token.Leads.region kind text).scan position

/-- A region with its closer is a token. -/
theorem scan_closed (apart : ¬ kind.closer <:+: body) (position : Nat) (after : List Char) :
    scan position (kind.enclose body ++ after) =
      (Token.region (kind.enclose body) :: ·) <$>
        scan (position + byteLength (kind.enclose body)) after := by
  rw [Region.enclose_append, scan_opener, Region.splitAfter_body apart]
  rfl

/-- A region behind closed tokens is copied. It is a token of its own, or a comment that a dash in front
of it belongs to. -/
theorem scan_append_closed (apart : ¬ kind.closer <:+: body) (after : List Char) {position : Nat}
    {before : List Char} {tokens : List Token} (scanned : scan position before = .ok tokens)
    (closed : ∀ text, Token.region text ∈ tokens → Region.Closed text) :
    ∃ joined : List Token,
      joined.flatMap Token.output = tokens.flatMap Token.output ++ kind.enclose body ∧
      (∀ start, occurrencesFrom start joined = occurrencesFrom start tokens) ∧
      scan position (before ++ (kind.enclose body ++ after)) =
        (joined ++ ·) <$>
          scan (position + byteLength (before ++ kind.enclose body)) after := by
  have read := scan_eq_ok_iff.mp scanned
  clear scanned
  induction read generalizing position with
  | done =>
      refine ⟨[.region (kind.enclose body)], ?_, ?_, ?_⟩
      · exact List.append_nil _
      · intro start
        rfl
      · exact scan_closed apart position after
  | @token text rest token following leads behind inductionHypothesis =>
      by_cases merges : text = ['-'] ∧ kind = .lineComment
      · obtain ⟨rfl, rfl⟩ := merges
        cases leads.next
        cases behind.eq_nil
        have longer : ¬ Region.lineComment.closer <:+: '-' :: body := by
          rw [List.infix_cons_iff, not_or]
          exact ⟨by simp [Region.closer], apart⟩
        refine ⟨[.region (Region.lineComment.enclose ('-' :: body))], ?_, ?_, ?_⟩
        · exact List.append_nil _
        · intro start
          rfl
        · exact scan_closed longer position after
      · have apartFront := leads.append_opener (fun text same => closed text (by simp [same]))
          (body ++ kind.closer ++ after) merges
        rw [← Region.enclose_append] at apartFront
        obtain ⟨joined, outputs, occurring, scans⟩ :=
          @inductionHypothesis (position + byteLength token.source) fun text member =>
            closed text (.tail _ member)
        refine ⟨token :: joined, ?_, ?_, ?_⟩
        · rw [List.flatMap_cons, List.flatMap_cons, outputs, List.append_assoc]
        · intro start
          simp only [occurrencesFrom, occurring]
        · have stop : position + byteLength token.source + byteLength (rest ++ kind.enclose body) =
              position + byteLength (text ++ kind.enclose body) := by
            rw [← leads.append]
            simp only [byteLength_append]
            omega
          rw [apartFront.scan, scans, stop]
          cases scan (position + byteLength (text ++ kind.enclose body)) after <;> rfl

/-- A text is scanned alike at any position, except for the position of a fault. -/
theorem scan_shift (offset position : Nat) (text : List Char) :
    (∃ tokens, scan position text = .ok tokens ∧ scan (position + offset) text = .ok tokens) ∨
      ∃ fault place, scan position text = .error (.malformedTemplate fault place) ∧
        scan (position + offset) text = .error (.malformedTemplate fault (place + offset)) := by
  induction position, text using scan.induct with
  | case1 position =>
      rw [scan, scan]
      exact .inl ⟨[], rfl, rfl⟩
  | case2 position char chars fault reads =>
      rw [scan_of_fault reads, scan_of_fault reads]
      exact .inr ⟨fault, position, rfl, rfl⟩
  | case3 position char chars token rest reads shorter inductionHypothesis =>
      rw [scan_of_next reads, scan_of_next reads, Nat.add_right_comm]
      rcases inductionHypothesis with ⟨tokens, first, second⟩ | ⟨fault, place, first, second⟩
      · rw [first, second]
        exact .inl ⟨token :: tokens, rfl, rfl⟩
      · rw [first, second]
        exact .inr ⟨fault, place, rfl, rfl⟩

theorem occurrencesFrom_shift (offset position : Nat) (tokens : List Token) :
    occurrencesFrom (position + offset) tokens =
      (occurrencesFrom position tokens).map (.shift offset) := by
  induction tokens generalizing position with
  | nil => rfl
  | cons token tokens inductionHypothesis =>
      have tail := inductionHypothesis (position + byteLength token.output)
      rw [Nat.add_right_comm] at tail
      rw [occurrencesFrom, occurrencesFrom, tail]
      cases token.name? with
      | none => rfl
      | some name =>
          rw [List.map_cons, Occurrence.shift, Nat.add_right_comm]

end Scan

theorem utf8ByteSize_append_ofList (text : String) (chars : List Char) :
    (text ++ String.ofList chars).utf8ByteSize = byteLength (text.toList ++ chars) := by
  rw [← utf8ByteSize_ofList, String.ofList_append, String.ofList_toList]

/-- A quoted literal or a comment without its closer in its body is opaque. Behind a text whose regions
are closed it is copied, and the text behind it is parsed as if it stood alone. -/
theorem parse_opaque {before : String} {template : Template} {kind : Region} {body : List Char}
    (parsed : parse before = .ok template) (outside : template.EndsOutside)
    (apart : ¬ kind.closer <:+: body) (after : String) :
    Follows before (String.ofList (kind.enclose body)) template (parse after)
      (parse (before ++ String.ofList (kind.enclose body) ++ after)) := by
  obtain ⟨tokens, scanned, rfl⟩ := map_eq_ok.mp parsed
  obtain ⟨joined, outputs, occurring, scans⟩ := scan_append_closed apart after.toList scanned outside
  have whole : (before ++ String.ofList (kind.enclose body) ++ after).toList =
      before.toList ++ (kind.enclose body ++ after.toList) := by
    rw [String.toList_append, String.toList_append, String.toList_ofList, List.append_assoc]
  rw [parse, parse, whole, scans]
  rcases scan_shift (byteLength (before.toList ++ kind.enclose body)) 0 after.toList with
    ⟨following, alone, behind⟩ | ⟨fault, place, alone, behind⟩
  · rw [alone, behind]
    apply Follows.parsed
    · change String.ofList ((joined ++ following).flatMap Token.output) = _
      rw [List.flatMap_append, outputs, String.ofList_append, String.ofList_append]
      rfl
    · change occurrencesFrom 0 (joined ++ following) = _
      rw [occurrencesFrom_append, occurring, outputs, occurrencesFrom_shift,
        utf8ByteSize_append_ofList, rewritten, String.toList_ofList]
      rfl
  · rw [alone, behind, ← utf8ByteSize_append_ofList]
    exact .fault fault place

theorem parse_opaque_behind_dash :
    parse ":a-" = .ok (.mk [.parameter .colon ['a'], .plain ['-']]) ∧
      (Template.mk [.parameter .colon ['a'], .plain ['-']]).EndsOutside ∧
      ¬ Region.lineComment.closer <:+: [' ', ':', 'b', '\''] ∧
      Follows ":a-" "-- :b'\n" (.mk [.parameter .colon ['a'], .plain ['-']]) (parse "\\:c:\x7bd\x7d")
        (parse ":a--- :b'\n\\:c:\x7bd\x7d") := by
  have parsed : parse ":a-" = .ok (.mk [.parameter .colon ['a'], .plain ['-']]) := by decide +kernel
  have outside : (Template.mk [.parameter .colon ['a'], .plain ['-']]).EndsOutside := by
    intro text member
    simp at member
  have apart : ¬ Region.lineComment.closer <:+: [' ', ':', 'b', '\''] := by decide
  exact ⟨parsed, outside, apart, parse_opaque parsed outside apart "\\:c:\x7bd\x7d"⟩

end BindPlan.Template
