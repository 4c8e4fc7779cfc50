import BindPlan.Proofs.Template.Rules
import BindPlan.Proofs.Template.Splice
import Mathlib.Data.Finset.Card

namespace BindPlan.Template

open Text

namespace Grammar

/-- A text has one reading at most. -/
theorem Scans.unique {position : Nat} {bytes : List UInt8} {first second : Except Error (List Lexeme)}
    (firstScans : Scans position bytes first) (secondScans : Scans position bytes second) :
    first = second := by
  induction firstScans generalizing second with
  | done position =>
      cases secondScans
      rfl
  | lexeme reads following inductionHypothesis =>
      rw [firstOf_rules_iff] at reads
      cases secondScans with
      | lexeme otherReads otherFollowing =>
          rw [firstOf_rules_iff, ← reads] at otherReads
          cases otherReads
          rw [inductionHypothesis otherFollowing]
      | fault otherReads =>
          rw [firstOf_rules_iff, ← reads] at otherReads
          cases otherReads
  | fault reads =>
      rw [firstOf_rules_iff] at reads
      cases secondScans with
      | lexeme otherReads otherFollowing =>
          rw [firstOf_rules_iff, ← reads] at otherReads
          cases otherReads
      | fault otherReads =>
          rw [firstOf_rules_iff, ← reads] at otherReads
          cases otherReads
          rfl

end Grammar

namespace Token

/-- The lexeme of a token that starts with a character of ASCII. -/
def lexeme : Token → Grammar.Lexeme
  | region text | plain text => .copy (encode text)
  | escapedColon => .escape
  | parameter form name => .parameter (encode name) (encode (parameterText form name))

/-- The lexemes of a token. A character alone is read byte by byte. -/
def lexemes : Token → List Grammar.Lexeme
  | plain [char] => (String.utf8EncodeChar char).map fun byte => .copy [byte]
  | token => [token.lexeme]

theorem source_lexeme (token : Token) : token.lexeme.source = encode token.source := by
  cases token <;> rfl

theorem output_lexeme (token : Token) : token.lexeme.output = encode token.output := by
  cases token <;> rfl

theorem name?_lexeme (token : Token) : token.lexeme.name? = token.name?.map utf8 := by
  cases token with
  | parameter form name => exact congrArg some (utf8_ofList name).symm
  | _ => rfl

/-- The stride over a token stands for its lexeme. -/
theorem lexeme_stride (token : Token) (rest : List Char) :
    Grammar.lexeme (encode (token.source ++ rest)) token.stride = token.lexeme := by
  cases token with
  | region text =>
      rw [stride, source, Grammar.lexeme, encode_append, ← length_encode, List.take_left, lexeme]
  | plain text =>
      rw [stride, source, Grammar.lexeme, encode_append, ← length_encode, List.take_left, lexeme]
  | escapedColon => rfl
  | parameter form name =>
      have lead : form.lead = (encode form.opening).length := by
        rw [length_encode, form.byteLength_opening]
      have long : form.lead + byteLength name + form.trail =
          (encode (parameterText form name)).length := by
        rw [length_encode]
        exact length_stride (.parameter form name)
      rw [stride, source, Grammar.lexeme, long, encode_append, List.take_left, form.parameterText_eq,
        encode_append, encode_append, List.append_assoc, List.append_assoc, lead, List.drop_left,
        ← length_encode, List.take_left, ← encode_append, ← encode_append, lexeme,
        form.parameterText_eq, List.append_assoc]

theorem lexemes_eq_of_narrow {char : Char} (narrow : char.toNat < 128) {chars rest : List Char}
    {token : Token} (reads : next char chars = .ok (token, rest)) : token.lexemes = [token.lexeme] := by
  have starts := next_append reads
  unfold lexemes
  split
  · rename_i first
    obtain ⟨rfl, _⟩ := List.cons.inj starts
    rw [encode_narrow narrow, lexeme, encode_cons, encode_narrow narrow]
    rfl
  · rfl

theorem outputs_lexemes (token : Token) :
    token.lexemes.flatMap Grammar.Lexeme.output = encode token.output := by
  unfold lexemes
  split
  · rename_i char
    rw [List.flatMap_map, output, encode_cons, encode_nil, List.append_nil]
    exact List.flatMap_singleton' _
  · rw [List.flatMap_singleton, output_lexeme]

theorem names_lexemes (token : Token) :
    token.lexemes.filterMap Grammar.Lexeme.name? = (token.name?.map utf8).toList := by
  unfold lexemes
  split
  · rename_i char
    rw [List.filterMap_map]
    simp [Function.comp_def, Grammar.Lexeme.copy, name?]
  · rw [List.filterMap_cons, name?_lexeme]
    cases token.name? <;> rfl

end Token

namespace Grammar

/-- Bytes that are not of ASCII are lexemes of their own. -/
theorem scans_wide {wide : List UInt8} (high : ∀ byte ∈ wide, 128 ≤ byte.toNat) {position : Nat}
    {bytes : List UInt8} {outcome : Except Error (List Lexeme)}
    (following : Scans (position + wide.length) bytes outcome) :
    Scans position (wide ++ bytes) (outcome.map ((wide.map fun byte => .copy [byte]) ++ ·)) := by
  induction wide generalizing position with
  | nil =>
      cases outcome <;> exact following
  | cons byte wide inductionHypothesis =>
      have position : position + (byte :: wide).length = position + 1 + wide.length := by
        rw [List.length_cons]
        omega
      rw [position] at following
      have tail := inductionHypothesis (fun other member => high other (.tail _ member)) following
      have first : FirstOf (byte :: (wide ++ bytes)) rules (.ok (.copy [byte], wide ++ bytes)) := by
        rw [firstOf_rules_iff, Stride.next_byte (high byte List.mem_cons_self)]
        rfl
      have step := Scans.lexeme first tail
      cases outcome <;> exact step

/-- A token of a text is read as its lexemes. -/
theorem scans_token {char : Char} {chars rest : List Char} {token : Token}
    (reads : Token.next char chars = .ok (token, rest)) {position : Nat}
    {outcome : Except Error (List Lexeme)}
    (following : Scans (position + byteLength token.source) (encode rest) outcome) :
    Scans position (encode (char :: chars)) (outcome.map (token.lexemes ++ ·)) := by
  by_cases narrow : char.toNat < 128
  · have strides := Stride.next_encode narrow chars
    have behind := Token.drop_stride reads
    have stands := token.lexeme_stride rest
    rw [Token.next_append reads] at stands
    rw [reads] at strides
    rw [encode_cons, encode_narrow narrow, List.singleton_append] at behind stands ⊢
    have first : FirstOf (char.toUInt8 :: encode chars) rules (.ok (token.lexeme, encode rest)) := by
      rw [firstOf_rules_iff, strides, ← behind, ← stands]
      rfl
    rw [← length_encode, ← token.source_lexeme] at following
    rw [Token.lexemes_eq_of_narrow narrow reads]
    exact .lexeme first following
  · have high : 128 ≤ char.toNat := by omega
    rw [Stride.next_wide high] at reads
    cases reads
    rw [encode_cons]
    apply scans_wide (le_of_mem_encode_wide high)
    rw [String.length_utf8EncodeChar]
    exact following

theorem scans_fault {char : Char} {chars : List Char} {fault : TemplateFault}
    (reads : Token.next char chars = .error fault) (position : Nat) :
    Scans position (encode (char :: chars)) (.error (.malformedTemplate fault position)) := by
  have narrow := Stride.narrow_of_fault reads
  have strides := Stride.next_encode narrow chars
  rw [reads] at strides
  rw [encode_cons, encode_narrow narrow, List.singleton_append]
  apply Scans.fault
  rw [firstOf_rules_iff, strides]
  rfl

/-- The reading of a text is made of the lexemes of its tokens. -/
theorem scans_scan (position : Nat) (chars : List Char) :
    Scans position (encode chars) ((scan position chars).map fun tokens =>
      tokens.flatMap Token.lexemes) := by
  induction position, chars using scan.induct with
  | case1 position =>
      rw [scan]
      exact .done position
  | case2 position char chars fault reads =>
      rw [scan_of_fault reads]
      exact scans_fault reads position
  | case3 position char chars token rest reads shorter inductionHypothesis =>
      have step := scans_token reads inductionHypothesis
      rw [scan_of_next reads]
      cases scanned : scan (position + byteLength token.source) rest with
      | error error =>
          rw [scanned] at step
          exact step
      | ok tokens =>
          rw [scanned] at step
          exact step

theorem outputs_flatMap (tokens : List Token) :
    (tokens.flatMap Token.lexemes).flatMap Lexeme.output = encode (tokens.flatMap Token.output) := by
  induction tokens with
  | nil => rfl
  | cons token tokens inductionHypothesis =>
      rw [List.flatMap_cons, List.flatMap_append, token.outputs_lexemes, inductionHypothesis,
        List.flatMap_cons, encode_append]

theorem names_flatMap (tokens : List Token) :
    (tokens.flatMap Token.lexemes).filterMap Lexeme.name? =
      (tokens.filterMap Token.name?).map utf8 := by
  induction tokens with
  | nil => rfl
  | cons token tokens inductionHypothesis =>
      rw [List.flatMap_cons, List.filterMap_append, token.names_lexemes, inductionHypothesis,
        List.filterMap_cons]
      cases token.name? <;> rfl

end Grammar

section FirstAppearances

variable {A B : Type} [BEq A] [BEq B]

/-- The listed items are those of a row, each once, in the order in which they first appear. -/
structure FirstAppearances (row listed : List A) : Prop where
  members : ∀ item, item ∈ listed ↔ item ∈ row
  ordered : listed.Pairwise fun earlier later => row.idxOf earlier < row.idxOf later

theorem FirstAppearances.nodup {row listed : List A} (first : FirstAppearances row listed) :
    listed.Nodup := by
  apply first.ordered.imp
  rintro earlier _ before rfl
  exact absurd before (Nat.lt_irrefl _)

variable [LawfulBEq A] [LawfulBEq B]

theorem eraseDups_concat (row : List A) (item : A) :
    (row ++ [item]).eraseDups = if item ∈ row then row.eraseDups else row.eraseDups ++ [item] := by
  rw [List.eraseDups_append]
  split
  · rename_i seen
    simp [List.removeAll, seen]
  · rename_i fresh
    simp [List.removeAll, fresh, List.eraseDups_cons]

theorem eraseDups_map {f : A → B} (injective : Function.Injective f) (row : List A) :
    (row.map f).eraseDups = row.eraseDups.map f := by
  induction row using List.reverseRecOn with
  | nil => rfl
  | append_singleton row item inductionHypothesis =>
      rw [List.map_append, List.map_singleton, eraseDups_concat, eraseDups_concat,
        inductionHypothesis]
      simp only [List.mem_map_of_injective injective]
      split
      · rfl
      · rw [List.map_append, List.map_singleton]

theorem eraseDups_filter (keep : A → Bool) (row : List A) :
    (row.filter keep).eraseDups = row.eraseDups.filter keep := by
  induction row using List.reverseRecOn with
  | nil => rfl
  | append_singleton row item inductionHypothesis =>
      rw [List.filter_append, List.filter_singleton, eraseDups_concat]
      cases kept : keep item with
      | false =>
          rw [cond_false, List.append_nil, inductionHypothesis]
          split
          · rfl
          · rw [List.filter_append, List.filter_singleton, kept, cond_false, List.append_nil]
      | true =>
          rw [cond_true, eraseDups_concat, inductionHypothesis]
          simp only [List.mem_filter, kept, and_true]
          split
          · rfl
          · rw [List.filter_append, List.filter_singleton, kept, cond_true]

theorem firstAppearances_eraseDups (row : List A) : FirstAppearances row row.eraseDups := by
  refine ⟨fun item => List.mem_eraseDups, ?_⟩
  induction row using List.reverseRecOn with
  | nil => exact .nil
  | append_singleton row item inductionHypothesis =>
      have kept : row.eraseDups.Pairwise fun earlier later =>
          (row ++ [item]).idxOf earlier < (row ++ [item]).idxOf later := by
        apply inductionHypothesis.imp_of_mem
        intro earlier later earlierMember laterMember before
        rwa [List.idxOf_append_of_mem (List.mem_eraseDups.mp earlierMember),
          List.idxOf_append_of_mem (List.mem_eraseDups.mp laterMember)]
      rw [eraseDups_concat]
      split
      · exact kept
      · rename_i fresh
        refine List.pairwise_append.mpr ⟨kept, List.pairwise_singleton _ _, ?_⟩
        intro earlier earlierMember later laterMember
        have seen : earlier ∈ row := List.mem_eraseDups.mp earlierMember
        rw [List.mem_singleton.mp laterMember, List.idxOf_append_of_mem seen,
          List.idxOf_append_of_notMem fresh]
        have := List.idxOf_lt_length_iff.mpr seen
        omega

end FirstAppearances

namespace Grammar

/-- A template says of its text what the lexemes of the text say. -/
structure Matches (template : Template) (lexemes : List Lexeme) : Prop where
  rewritten : utf8 template.rewritten = lexemes.flatMap Lexeme.output
  occurrences : template.occurrences.map (fun occurrence => utf8 occurrence.name) =
    lexemes.filterMap Lexeme.name?
  total : template.occurrences.length = (lexemes.filterMap Lexeme.name?).length
  distinct : template.names.length = (lexemes.filterMap Lexeme.name?).toFinset.card
  names : FirstAppearances (lexemes.filterMap Lexeme.name?) (template.names.map utf8)

/-- A template is parsed where the reading has no fault, and else the fault of the reading is reported. -/
inductive Agrees : Except Error Template → Except Error (List Lexeme) → Prop
  | template {template : Template} {lexemes : List Lexeme} (same : Matches template lexemes) :
      Agrees (.ok template) (.ok lexemes)
  | fault (error : Error) : Agrees (.error error) (.error error)

theorem utf8_injective : Function.Injective utf8 := by
  intro first second same
  apply String.toByteArray_inj.mp
  apply ByteArray.ext
  exact Array.toList_inj.mp same

theorem matches_lexemes (tokens : List Token) :
    Matches (.mk tokens) (tokens.flatMap Token.lexemes) := by
  have named : (Template.mk tokens).occurrences.map (fun occurrence => utf8 occurrence.name) =
      (tokens.flatMap Token.lexemes).filterMap Lexeme.name? := by
    rw [names_flatMap, ← names_occurrencesFrom 0, List.map_map]
    rfl
  have listed : (Template.mk tokens).names.map utf8 =
      ((tokens.flatMap Token.lexemes).filterMap Lexeme.name?).eraseDups := by
    rw [names_flatMap, eraseDups_map utf8_injective]
    rfl
  have first := firstAppearances_eraseDups ((tokens.flatMap Token.lexemes).filterMap Lexeme.name?)
  rw [← listed] at first
  refine ⟨?_, named, ?_, ?_, first⟩
  · rw [outputs_flatMap]
    exact utf8_ofList _
  · rw [← named, List.length_map]
  · have members : ((Template.mk tokens).names.map utf8).toFinset =
        ((tokens.flatMap Token.lexemes).filterMap Lexeme.name?).toFinset := by
      ext name
      rw [List.mem_toFinset, List.mem_toFinset, first.members]
    rw [← members, List.toFinset_card_of_nodup first.nodup, List.length_map]

end Grammar

/-- The bytes of a text have exactly one reading by the grammar, and parsing agrees with it: a template
is parsed if and only if no fault is read, and then the rewritten text, the names of the occurrences,
their number and the distinct names are those of the lexemes. -/
theorem parse_agrees (text : String) :
    ∃ outcome, (∀ other, Grammar.Scans 0 (utf8 text) other ↔ other = outcome) ∧
      Grammar.Agrees (parse text) outcome := by
  have scans := Grammar.scans_scan 0 text.toList
  rw [← utf8_eq_encode] at scans
  refine ⟨_, fun other => ⟨fun otherScans => otherScans.unique scans, ?_⟩, ?_⟩
  · rintro rfl
    exact scans
  · rw [parse]
    cases scan 0 text.toList with
    | error error => exact .fault error
    | ok tokens => exact .template (Grammar.matches_lexemes tokens)

example : (parse "::::a\\:b&&c/*/:d*/:\x7b\x7d':e").map (fun template =>
      (template.rewritten, template.occurringNames)) =
    .ok ("::::a:b&&c/*/:d*/:\x7b\x7d':e", ["c"]) := by
  decide +kernel

end BindPlan.Template
