import BindPlan.Proofs.Marker.Naming
import BindPlan.Proofs.Template.Insertion
import BindPlan.Proofs.Template.Separation
import BindPlan.Proofs.Template.Stride
import Mathlib.Data.List.Chain

namespace BindPlan

open Template Expansion

/-- The way in which a reader finds placeholders: by a sign with a run of characters behind it. -/
structure Sigil where
  sign : Char
  inRun : Char → Bool
  sign_not_inRun : inRun sign = false
  sign_not_separator : Token.isSeparator sign = false
  /-- A character that ends a name ends a run. -/
  separator_not_inRun : ∀ char, Token.isSeparator char = true → inRun char = false

namespace Sigil

theorem separator_cases {char : Char} (separates : Token.isSeparator char = true) :
    Allocator.isNameChar char = false ∧ char.toNat < 128 := by
  have each : ∀ char ∈ Token.whiteSpace ++ Token.punctuation, Allocator.isNameChar char = false := by
    simp [Token.whiteSpace, Token.punctuation, Allocator.isNameChar]
  have member : char ∈ Token.whiteSpace ++ Token.punctuation := by
    simpa [Token.isSeparator] using separates
  exact ⟨each char member, separators_narrow char member⟩

/-- A dollar sign with decimal digits. -/
def dollar : Sigil where
  sign := '$'
  inRun := Char.isDigit
  sign_not_inRun := by decide
  sign_not_separator := by decide
  separator_not_inRun := by
    intro char separates
    by_contra digit
    rw [Bool.not_eq_false] at digit
    have valid := Allocator.isNameChar_of_isDigit digit
    rw [(separator_cases separates).1] at valid
    cases valid

/-- An at sign with letters, digits and underscores. Which characters beyond ASCII are letters is left
open. -/
def atSign (letters : Char → Bool) : Sigil where
  sign := '@'
  inRun char := Allocator.isNameChar char || (decide (128 ≤ char.toNat) && letters char)
  sign_not_inRun := rfl
  sign_not_separator := by decide
  separator_not_inRun := by
    intro char separates
    obtain ⟨noName, narrow⟩ := separator_cases separates
    simp [noName, narrow]

variable (sigil : Sigil)

/-- The longest run of name characters that a text starts with. -/
def run : List Stretch → List Char
  | .bare char :: rest => if sigil.inRun char then char :: run rest else []
  | _ => []

/-- Each sign outside the regions that has a run behind it, with that run. A run holds no sign, so it
makes no difference whether the reader goes on in it or behind it. -/
def references : List Stretch → List (List Char)
  | [] => []
  | .region _ :: rest => references rest
  | .bare char :: rest =>
      let following := references rest
      if char = sigil.sign ∧ sigil.run rest ≠ [] then (char :: sigil.run rest) :: following
      else following

variable {sigil}

theorem run_bare {char : Char} (outside : sigil.inRun char = false) (rest : List Stretch) :
    sigil.run (.bare char :: rest) = [] := by
  rw [run, outside]
  rfl

theorem run_append {name : List Char} (inside : ∀ char ∈ name, sigil.inRun char = true)
    (behind : List Stretch) : sigil.run (name.map .bare ++ behind) = name ++ sigil.run behind := by
  induction name with
  | nil => rfl
  | cons char name inductionHypothesis =>
      rw [List.forall_mem_cons] at inside
      rw [List.map_cons, List.cons_append, run, if_pos inside.1, inductionHypothesis inside.2]
      rfl

/-- Nothing is read where there is no sign. -/
theorem references_append {shown : List Char} (absent : sigil.sign ∉ shown) (behind : List Stretch) :
    sigil.references (shown.map .bare ++ behind) = sigil.references behind := by
  induction shown with
  | nil => rfl
  | cons char shown inductionHypothesis =>
      rw [List.mem_cons, not_or] at absent
      rw [List.map_cons, List.cons_append, references, if_neg fun found => absent.1 found.1.symm,
        inductionHypothesis absent.2]

/-- A sign with a name is read together with the run behind the name. -/
theorem references_sign {name : List Char} (filled : name ≠ [])
    (inside : ∀ char ∈ name, sigil.inRun char = true) (behind : List Stretch) :
    sigil.references ((sigil.sign :: name).map .bare ++ behind) =
      (sigil.sign :: name ++ sigil.run behind) :: sigil.references behind := by
  have absent : sigil.sign ∉ name := by
    intro member
    have signInRun := inside _ member
    rw [sigil.sign_not_inRun] at signInRun
    cases signInRun
  rw [List.map_cons, List.cons_append, references, run_append inside, references_append absent]
  rw [if_pos ⟨rfl, List.append_ne_nil_of_left_ne_nil filled _⟩]
  rfl

variable (sigil)

/-- The style writes each placeholder as the sign with a run behind it. -/
def Writes (style : MarkerStyle) : Prop :=
  ∀ marker, style.HandsOut marker → ∃ name, name ≠ [] ∧
    (∀ char ∈ name, sigil.inRun char = true) ∧ marker.placeholder.toList = sigil.sign :: name

end Sigil

/-- The sigil of a dialect that numbers or names its placeholders, other than with a colon. -/
def Dialect.sigil? (letters : Char → Bool) : Dialect → Option Sigil
  | .postgres | .h2 => some .dollar
  | .sqlserver => some (.atSign letters)
  | _ => none

theorem Sigil.writes_dollar (start : UInt64) : dollar.Writes (.indexed "$" start) := by
  rintro _ ⟨allocator, hint, style, rfl⟩
  refine ⟨Nat.toDigits 10 (start + UInt64.ofNat allocator.allocated).toNat, Nat.toDigits_ne_nil,
    fun char member => Allocator.isDigit_of_mem member, ?_⟩
  rw [Allocator.allocate, style]
  simp [Nat.toString_eq_repr, Nat.toList_repr, dollar]

theorem Sigil.writes_atSign (letters : Char → Bool) (maxLength : Nat) :
    (atSign letters).Writes (.named "@" "P" maxLength) := by
  rintro _ ⟨allocator, hint, style, rfl⟩
  let name := Allocator.uniqueName allocator.used
    (Allocator.baseName "P" maxLength allocator.allocated hint) maxLength allocator.allocated
  have filled : name ≠ "" := Allocator.uniqueName_ne_empty (Allocator.baseName_ne_nil hint) _ _ _
  have valid : ∀ char ∈ name.toList, Allocator.isNameChar char = true := by
    intro char member
    rcases Allocator.mem_uniqueName member with inBase | valid
    · rcases Allocator.mem_baseName inBase with stem | valid
      · obtain rfl := List.mem_singleton.mp stem
        decide
      · exact valid
    · exact valid
  refine ⟨name.toList, by simpa using filled, fun char member => ?_, ?_⟩
  · exact Bool.or_eq_true_iff.mpr (.inl (valid char member))
  · rw [Allocator.allocate, style]
    simp [name, atSign]

theorem Dialect.writes_sigil {dialect : Dialect} {letters : Char → Bool} {sigil : Sigil}
    (known : dialect.sigil? letters = some sigil) : sigil.Writes dialect.markerStyle := by
  cases dialect <;> cases known
  · exact Sigil.writes_dollar 1
  · exact Sigil.writes_dollar 1
  · exact Sigil.writes_atSign letters 32

/-- What is read starts with the placeholders, one by one, and is the placeholders where nothing else is
taken. -/
structure ReadsBack (placeholders read : List (List Char)) (clear : Prop) : Prop where
  starts : List.Forall₂ (· <+: ·) placeholders read
  exactly : read = placeholders ↔ clear

namespace ReadsBack

theorem nothing : ReadsBack [] [] True := ⟨.nil, by simp⟩

theorem single (placeholder extra : List Char) :
    ReadsBack [placeholder] [placeholder ++ extra] (extra = []) :=
  ⟨.cons (List.prefix_append _ _) .nil, by simp⟩

theorem append {placeholders others read further : List (List Char)} {clear behind : Prop}
    (first : ReadsBack placeholders read clear) (second : ReadsBack others further behind) :
    ReadsBack (placeholders ++ others) (read ++ further) (clear ∧ behind) := by
  refine ⟨List.rel_append first.starts second.starts, ?_⟩
  rw [← first.exactly, ← second.exactly]
  constructor
  · intro same
    exact List.append_inj same first.starts.length_eq.symm
  · rintro ⟨rfl, rfl⟩
    rfl

theorem congr {placeholders read : List (List Char)} {clear other : Prop}
    (reads : ReadsBack placeholders read clear) (same : clear ↔ other) :
    ReadsBack placeholders read other :=
  ⟨reads.starts, reads.exactly.trans same⟩

end ReadsBack

namespace Fragment

/-- The placeholders of the markers in a fragment. -/
def placeholders (fragment : Fragment) : List (List Char) :=
  fragment.markers.map fun marker => marker.placeholder.toList

/-- The last part of the fragment is a marker. -/
def EndsInSlot (fragment : Fragment) : Prop := ∃ marker, fragment.getLast? = some (.slot marker)

theorem endsInSlot_append {first second : Fragment} (filled : second ≠ []) :
    (first ++ second).EndsInSlot ↔ second.EndsInSlot := by
  rw [EndsInSlot, List.getLast?_append_of_ne_nil _ filled, EndsInSlot]

theorem endsInSlot_cons {part : Part} {rest : Fragment} (filled : rest ≠ []) :
    EndsInSlot (part :: rest) ↔ rest.EndsInSlot := by
  rw [← List.singleton_append, endsInSlot_append filled]

theorem not_endsInSlot_text (content : String) : ¬ (ofText content).EndsInSlot := by
  rintro ⟨marker, last⟩
  cases last

end Fragment

namespace Expansion

variable {sigil : Sigil} {style : MarkerStyle}

theorem inserted_separators {content : String} (inserted : Inserted style (.text content)) :
    content.toList ≠ [] ∧ ∀ char ∈ content.toList, Token.isSeparator char = true := by
  have each : ∀ content ∈ ["(", ")", ", "],
      content.toList ≠ [] ∧ ∀ char ∈ content.toList, Token.isSeparator char = true := by
    simp [Token.isSeparator, Token.whiteSpace, Token.punctuation]
  exact each content inserted

/-- What is inserted does not go on with a run. -/
theorem run_inserted (writes : sigil.Writes style) {part : Fragment.Part} (inserted : Inserted style part)
    (behind : List Stretch) : sigil.run (part.sql.toList.map .bare ++ behind) = [] := by
  cases part with
  | text content =>
      obtain ⟨filled, separators⟩ := inserted_separators inserted
      obtain ⟨char, rest, starts⟩ := List.exists_cons_of_ne_nil filled
      rw [starts] at separators
      rw [Fragment.Part.sql, starts]
      exact Sigil.run_bare (sigil.separator_not_inRun char (separators char List.mem_cons_self)) _
  | slot marker =>
      obtain ⟨name, _, _, starts⟩ := writes marker inserted
      rw [Fragment.Part.sql, starts]
      exact Sigil.run_bare sigil.sign_not_inRun _

/-- The placeholders of inserted parts are read back, unless a run stands behind the last of them. -/
theorem fragment_readsBack (writes : sigil.Writes style) {fragment : Fragment}
    (inserted : ∀ part ∈ fragment, Inserted style part) (behind : List Stretch) :
    ∃ read, sigil.references (fragment.sql.toList.map .bare ++ behind) =
        read ++ sigil.references behind ∧
      ReadsBack fragment.placeholders read (fragment.EndsInSlot → sigil.run behind = []) := by
  induction fragment with
  | nil =>
      refine ⟨[], rfl, ReadsBack.nothing.congr ?_⟩
      simp [Fragment.EndsInSlot]
  | cons part rest inductionHypothesis =>
      rw [List.forall_mem_cons] at inserted
      obtain ⟨first, others⟩ := inserted
      obtain ⟨read, reads, back⟩ := inductionHypothesis others
      rw [Fragment.toList_sql, List.flatMap_cons, ← Fragment.toList_sql, List.map_append,
        List.append_assoc]
      cases part with
      | text content =>
          have absent : sigil.sign ∉ content.toList := by
            intro member
            have separates := (inserted_separators first).2 _ member
            rw [sigil.sign_not_separator] at separates
            cases separates
          refine ⟨read, ?_, back.congr ?_⟩
          · rw [Fragment.Part.sql, Sigil.references_append absent, reads]
          · cases rest with
            | nil => simp [Fragment.EndsInSlot]
            | cons next rest => rw [Fragment.endsInSlot_cons (List.cons_ne_nil next rest)]
      | slot marker =>
          obtain ⟨name, filled, inside, spelled⟩ := writes marker first
          refine ⟨[marker.placeholder.toList ++
            sigil.run ((Fragment.sql rest).toList.map .bare ++ behind)] ++ read, ?_, ?_⟩
          · rw [Fragment.Part.sql, spelled, Sigil.references_sign filled inside, reads]
            rfl
          · refine ((ReadsBack.single _ _).append back).congr ?_
            cases rest with
            | nil => simp [Fragment.EndsInSlot, Fragment.sql]
            | cons next rest =>
                have apart := run_inserted writes (others next List.mem_cons_self)
                  ((Fragment.sql rest).toList.map .bare ++ behind)
                rw [Fragment.toList_sql, List.flatMap_cons, ← Fragment.toList_sql, List.map_append,
                  List.append_assoc, apart, Fragment.endsInSlot_cons (List.cons_ne_nil next rest)]
                simp

/-- What stands for a value ends in a placeholder. A list ends in a parenthesis instead where a row is the
last of its elements. -/
def endsInMarker : Option Value → Bool
  | some (.list items) => items.getLast?.all fun item => item.row?.isNone
  | _ => true

theorem endsInSlot_joined {separator : String} {fragments : List Fragment}
    (filled : ∀ fragment ∈ fragments, fragment ≠ []) :
    (Fragment.joined separator fragments).EndsInSlot ↔
      ∃ last, fragments.getLast? = some last ∧ last.EndsInSlot := by
  induction fragments with
  | nil => simp [Fragment.joined, Fragment.EndsInSlot]
  | cons first rest inductionHypothesis =>
      rw [List.forall_mem_cons] at filled
      cases rest with
      | nil => simp [Fragment.joined_singleton]
      | cons second rest =>
          have behind := Fragment.joined_ne_nil (filled.2 second List.mem_cons_self) separator rest
          rw [Fragment.joined_cons_cons, Fragment.endsInSlot_append behind,
            inductionHypothesis filled.2, List.getLast?_cons_cons]

theorem endsInSlot_write {group : Group} {row : List Marker} (visible : group.Visible)
    (fits : Fits group row) : (group.write row).EndsInSlot ↔ ∃ count, group = .plain count := by
  cases group with
  | plain count =>
      refine iff_of_true ?_ ⟨count, rfl⟩
      have each : ∀ fragment ∈ row.map Fragment.ofMarker, fragment ≠ [] := by
        simp [Fragment.ofMarker]
      have some : row ≠ [] := by
        rintro rfl
        exact visible fits.symm
      rw [Group.write, endsInSlot_joined each]
      refine ⟨_, List.getLast?_eq_some_getLast (by simpa using some), ?_⟩
      rw [List.getLast_map]
      exact ⟨_, rfl⟩
  | row count =>
      refine iff_of_false ?_ (by simp)
      rw [Group.write, Fragment.endsInSlot_append (by simp [Fragment.ofText])]
      exact Fragment.not_endsInSlot_text _

theorem endsInSlot_groups {taken : List Group} {rows : List (List Marker)}
    (visible : ∀ group ∈ taken, group.Visible) (fits : List.Forall₂ Fits taken rows) :
    (Fragment.joined ", " (List.zipWith Group.write taken rows)).EndsInSlot ↔
      ∃ count, taken.getLast? = some (.plain count) := by
  induction fits with
  | nil => simp [Fragment.joined, Fragment.EndsInSlot]
  | @cons group row taken rows head rest inductionHypothesis =>
      rw [List.forall_mem_cons] at visible
      cases rest with
      | nil => simpa [Fragment.joined_singleton] using endsInSlot_write visible.1 head
      | cons next others =>
          have behind := Fragment.joined_ne_nil
            (write_ne_nil (visible.2 _ List.mem_cons_self) next) ", "
          rw [List.zipWith_cons_cons, List.zipWith_cons_cons, Fragment.joined_cons_cons,
            Fragment.endsInSlot_append (behind _), ← List.zipWith_cons_cons,
            inductionHypothesis visible.2, List.getLast?_cons_cons]

theorem endsInMarker_groups {name : String} {value : Option Value} {taken : List Group}
    (grouped : groups name value = .ok taken) :
    (∃ count, taken.getLast? = some (.plain count)) ↔ endsInMarker value = true := by
  rcases groups_cases grouped with ⟨item, rest, rfl, rfl⟩ | ⟨single, rfl, _⟩
  · rw [List.getLast?_map, endsInMarker, List.getLast?_eq_some_getLast (List.cons_ne_nil item rest)]
    simp only [Option.map_some, Option.some.injEq, Option.all_some, Group.ofElement]
    cases ((item :: rest).getLast (List.cons_ne_nil item rest)).row? <;> simp
  · refine iff_of_true ⟨_, rfl⟩ ?_
    unfold endsInMarker
    split
    · exact absurd rfl (single _)
    · rfl

/-- The piece of a parameter ends in a marker as the value of the name tells. -/
def Ends (source : Source) (token : Token) (piece : Piece) : Prop :=
  ∀ form name, token = .parameter form name →
    (piece.fragment.EndsInSlot ↔ endsInMarker (source.value? (String.ofList name)) = true)

theorem placeToken_ends {source : Source} {token : Token} {start finish : Allocator} {piece : Piece}
    (places : placeToken source token start = .ok (piece, finish)) : Ends source token piece := by
  rintro form name rfl
  obtain ⟨taken, grouped, places⟩ := bind_eq_ok.mp places
  obtain ⟨rows, fits, placed, _⟩ := placeGroups_hands (String.ofList name) taken start
  generalize (placeGroups (String.ofList name) taken).run start = outcome at places placed
  obtain ⟨fragment, last⟩ := outcome
  cases places
  rw [Piece.fragment, ← endsInMarker_groups grouped, ← endsInSlot_groups (groups_visible grouped).2 fits]
  exact iff_of_eq (congrArg Fragment.EndsInSlot placed)

end Expansion

namespace Template

/-- A name without braces in front of the second token ends where that token starts. -/
def Token.Stops (first second : Token) : Prop :=
  ∀ form name, first = .parameter form name → form ≠ .braces →
    ∀ char ∈ second.source.head?, isSeparator char = true

theorem Token.Leads.stops {text rest : List Char} {form : NameForm} {name : List Char}
    (leads : Leads text (.parameter form name) rest) (bare : form ≠ .braces) :
    rest.head?.all isSeparator = true := by
  cases leads with
  | braces => exact absurd rfl bare
  | colon _ _ _ stops => exact stops
  | ampersand _ _ stops => exact stops

/-- A name without braces runs up to a separator. -/
theorem Scanned.stops {text : List Char} {tokens : List Token} (scanned : Scanned text tokens) :
    tokens.IsChain Token.Stops := by
  induction scanned with
  | done => exact .nil
  | token leads behind inductionHypothesis =>
      rw [List.isChain_cons]
      refine ⟨?_, inductionHypothesis⟩
      rintro second starts form name rfl bare char first
      obtain ⟨others, rfl⟩ := List.head?_eq_some_iff.mp starts
      have stops := leads.stops bare
      rw [← behind.sources, List.flatMap_cons,
        List.head?_append_of_ne_nil _ (behind.source_ne_nil second List.mem_cons_self), first] at stops
      exact stops

/-- The tokens start with a plain character that a run goes on with. -/
def StartsInRun (sigil : Sigil) (tokens : List Token) : Prop :=
  ∃ char text rest, tokens = .plain (char :: text) :: rest ∧ sigil.inRun char = true

theorem startsInRun_plain {sigil : Sigil} {char : Char} {text : List Char} {rest : List Token} :
    StartsInRun sigil (.plain (char :: text) :: rest) ↔ sigil.inRun char = true := by
  simp [StartsInRun]

theorem not_startsInRun {sigil : Sigil} {token : Token} (other : ∀ text, token ≠ .plain text)
    (rest : List Token) : ¬ StartsInRun sigil (token :: rest) := by
  rintro ⟨char, text, behind, same, _⟩
  cases same
  exact other _ rfl

/-- A name in braces whose value ends in a placeholder stands directly in front of a plain character that
a run goes on with. -/
def Fuses (template : Template) (sigil : Sigil) (source : Source) : Prop :=
  ∃ name char text, [.parameter .braces name, .plain (char :: text)] <:+: template.tokens ∧
    endsInMarker (source.value? (String.ofList name)) = true ∧ sigil.inRun char = true

theorem fuses_cons {sigil : Sigil} {source : Source} {token : Token} {rest : List Token} :
    (Template.mk (token :: rest)).Fuses sigil source ↔
      (∃ name, token = .parameter .braces name ∧
        endsInMarker (source.value? (String.ofList name)) = true ∧ StartsInRun sigil rest) ∨
      (Template.mk rest).Fuses sigil source := by
  simp only [Fuses, StartsInRun, List.infix_cons_iff, List.cons_prefix_cons]
  constructor
  · rintro ⟨name, char, text, ⟨rfl, starts⟩ | inside, ends, runs⟩
    · left
      cases rest with
      | nil => cases List.prefix_nil.mp starts
      | cons next rest =>
          obtain ⟨rfl, _⟩ := List.cons_prefix_cons.mp starts
          exact ⟨name, rfl, ends, char, text, rest, rfl, runs⟩
    · exact .inr ⟨name, char, text, inside, ends, runs⟩
  · rintro (⟨name, rfl, ends, char, text, behind, rfl, runs⟩ | ⟨name, char, text, inside, ends, runs⟩)
    · exact ⟨name, char, text, .inl ⟨rfl, List.prefix_append [_] behind⟩, ends, runs⟩
    · exact ⟨name, char, text, .inr inside, ends, runs⟩

end Template

namespace Expansion

variable {sigil : Sigil} {style : MarkerStyle} {source : Source}

/-- A run goes on behind a marker only into plain text. -/
theorem run_pieces (writes : sigil.Writes style) {tokens : List Token} {pieces : List Piece}
    (replaced : List.Forall₂ (Replaces style) tokens pieces)
    (filled : ∀ token ∈ tokens, token.source ≠ []) :
    sigil.run (List.zipWith Token.stretches tokens (pieces.map Piece.chars)).flatten = [] ↔
      ¬ StartsInRun sigil tokens := by
  cases replaced with
  | nil => exact iff_of_true rfl (by rintro ⟨_, _, _, same, _⟩; cases same)
  | @cons token piece tokens pieces head rest =>
      rw [List.map_cons, List.zipWith_cons_cons, List.flatten_cons]
      cases head with
      | parameter form name visible inserted =>
          obtain ⟨part, others, rfl⟩ := List.exists_cons_of_ne_nil visible
          refine iff_of_true ?_ (not_startsInRun (by simp) tokens)
          change sigil.run ((Fragment.sql (part :: others)).toList.map .bare ++ _) = []
          rw [Fragment.sql_cons, String.toList_append, List.map_append, List.append_assoc]
          exact run_inserted writes (inserted part List.mem_cons_self) _
      | @text token copied =>
          rw [Piece.chars_text]
          cases token with
          | region text => exact iff_of_true rfl (not_startsInRun (by simp) tokens)
          | plain text =>
              obtain ⟨char, others, rfl⟩ := List.exists_cons_of_ne_nil (filled _ List.mem_cons_self)
              rw [startsInRun_plain]
              change sigil.run ((char :: others).map .bare ++ _) = [] ↔ _
              rw [List.map_cons, List.cons_append, Sigil.run]
              split <;> simp_all
          | escapedColon =>
              exact iff_of_true (Sigil.run_bare (sigil.separator_not_inRun ':' rfl) _)
                (not_startsInRun (by simp) tokens)
          | parameter form name => cases copied

/-- The placeholders of one piece are read back, unless a run stands behind it. -/
theorem piece_readsBack (writes : sigil.Writes style) {token : Token} {piece : Piece}
    (replaces : Replaces style token piece)
    (free : sigil.sign ∈ token.source →
      (∃ text, token = .region text) ∨ ∃ form name, token = .parameter form name)
    (behind : List Stretch) :
    ∃ read, sigil.references (token.stretches piece.chars ++ behind) =
        read ++ sigil.references behind ∧
      ReadsBack piece.fragment.placeholders read
        (piece.fragment.EndsInSlot → sigil.run behind = []) := by
  cases replaces with
  | parameter form name filled inserted => exact fragment_readsBack writes inserted behind
  | @text token copied =>
      have unmarked : ReadsBack (Piece.text token.output).fragment.placeholders []
          ((Piece.text token.output).fragment.EndsInSlot → sigil.run behind = []) :=
        ReadsBack.nothing.congr
          (iff_of_true trivial fun ends => absurd ends (Fragment.not_endsInSlot_text _))
      refine ⟨[], ?_, unmarked⟩
      rw [Piece.chars_text, List.nil_append]
      cases token with
      | region text => rfl
      | plain text =>
          have absent : sigil.sign ∉ text := by
            intro inside
            rcases free inside with ⟨_, same⟩ | ⟨_, _, same⟩ <;> cases same
          exact Sigil.references_append absent behind
      | escapedColon =>
          have absent : sigil.sign ∉ [':'] := by
            rw [List.mem_singleton]
            intro colon
            have separates := sigil.sign_not_separator
            rw [colon] at separates
            cases separates
          exact Sigil.references_append absent behind
      | parameter form name => cases copied

/-- The placeholders of the pieces are read back, unless a name in braces fuses with the text behind it. -/
theorem pieces_readsBack (writes : sigil.Writes style) {tokens : List Token} {pieces : List Piece}
    (replaced : List.Forall₂ (Replaces style) tokens pieces)
    (ends : List.Forall₂ (Ends source) tokens pieces) (filled : ∀ token ∈ tokens, token.source ≠ [])
    (stops : tokens.IsChain Token.Stops) (free : (Template.mk tokens).Free sigil.sign) :
    ReadsBack (Fragment.placeholders (pieces.flatMap Piece.fragment))
      (sigil.references (List.zipWith Token.stretches tokens (pieces.map Piece.chars)).flatten)
      (¬ (Template.mk tokens).Fuses sigil source) := by
  induction replaced with
  | nil =>
      refine ReadsBack.nothing.congr (iff_of_true trivial ?_)
      rintro ⟨_, _, _, inside, _⟩
      cases List.infix_nil.mp inside
  | @cons token piece tokens pieces head rest inductionHypothesis =>
      obtain ⟨endsHead, endsRest⟩ := List.forall₂_cons.mp ends
      rw [List.forall_mem_cons] at filled
      rw [List.isChain_cons] at stops
      rw [Free, List.forall_mem_cons] at free
      have behind := inductionHypothesis endsRest filled.2 stops.2 free.2
      obtain ⟨read, reads, back⟩ := piece_readsBack writes head free.1
        (List.zipWith Token.stretches tokens (pieces.map Piece.chars)).flatten
      rw [List.map_cons, List.zipWith_cons_cons, List.flatten_cons, reads, List.flatMap_cons,
        Fragment.placeholders, Fragment.markers_append, List.map_append]
      refine (back.append behind).congr ?_
      rw [fuses_cons, not_or, run_pieces writes rest filled.2]
      refine and_congr_left' ?_
      -- Of the tokens that end in a marker, a name without braces is not followed by a run.
      cases head with
      | text copied =>
          refine iff_of_true (fun ends => absurd ends (Fragment.not_endsInSlot_text _)) ?_
          rintro ⟨name, rfl, _⟩
          cases copied
      | parameter form name visible inserted =>
          rw [endsHead form name rfl]
          by_cases braces : form = .braces
          · subst braces
            simp
          · refine iff_of_true ?_ ?_
            · rintro _ ⟨char, text, others, rfl, runs⟩
              have separates := stops.1 _ rfl form name rfl braces char rfl
              rw [sigil.separator_not_inRun char separates] at runs
              cases runs
            · rintro ⟨_, same, _⟩
              cases same
              exact braces rfl

end Expansion

namespace Template

open Expansion

/-- Placeholders with a sign are read back from the finished text. Where the sign stands in regions and
parameters alone, a reader finds one reference for each binding, in order, and it starts with the
placeholder of that binding. All of them are exactly the placeholders if and only if no name in braces,
whose value ends in a placeholder, stands directly in front of a character that a run goes on with. -/
theorem finish_readBack {text : String} {template : Template} {dialect : Dialect}
    {letters : Char → Bool} {sigil : Sigil} {source : Source} {expansion : Expansion}
    {calls : List Call} {prepared : Prepared} (known : dialect.sigil? letters = some sigil)
    (parsed : parse text = .ok template) (free : template.Free sigil.sign)
    (expanded : template.expand dialect.markerStyle source = .ok expansion)
    (finished : (expansion.run calls).finish = .ok prepared) :
    ReadsBack (prepared.bindings.map fun binding => binding.marker.placeholder.toList)
      (sigil.references (stretches prepared.sql.toList)) (¬ template.Fuses sigil source) := by
  obtain ⟨same, markers⟩ := finish_markers expanded finished
  obtain ⟨tokens, scanned, rfl⟩ := map_eq_ok.mp parsed
  obtain ⟨pieces, places, done⟩ := bind_eq_ok.mp expanded
  cases done
  have replaced : List.Forall₂ (Replaces dialect.markerStyle) tokens pieces :=
    placeTokens_replaces places
  have ends : List.Forall₂ (Ends source) tokens pieces :=
    forall₂_placeTokens (fun _ => placeToken_ends) rfl places
  have read := scan_eq_ok_iff.mp scanned
  have back := pieces_readsBack (Dialect.writes_sigil known) replaced ends read.source_ne_nil
    read.stops free
  rw [← (stretches_pieces scanned replaced).2] at back
  have placeholders : Fragment.placeholders prepared.fragment =
      prepared.bindings.map fun binding => binding.marker.placeholder.toList := by
    rw [Fragment.placeholders, markers, Bindings.markers, List.map_map]
    rfl
  rw [← placeholders, Prepared.sql, same]
  exact back

/-- A list that ends in a row stands in front of a letter, and a name in braces in front of a literal with
an at sign in it. -/
theorem finish_readBack_rows :
    let text := ":\x7bids\x7dy:\x7bn\x7d'@1'&n"
    let sigil : Sigil := .atSign fun char => char == 'é'
    let template : Template := ⟨[.parameter .braces "ids".toList, .plain ['y'],
      .parameter .braces ['n'], .region "'@1'".toList, .parameter .ampersand ['n']]⟩
    let ids : Value := .list [.int 1, .tuple [.int 2]]
    let source : Source := .ofList [("ids", ids), ("n", .null)]
    let marker (ordinal : Nat) (name : String) : Marker := ⟨"@" ++ name, .name name, ordinal⟩
    let expansion : Expansion := ⟨[
      .parameter "ids" [.slot (marker 0 "ids"), .text ", ", .text "(", .slot (marker 1 "ids_1"),
        .text ")"],
      .text ['y'], .parameter "n" [.slot (marker 2 "n")], .text "'@1'".toList,
      .parameter "n" [.slot (marker 3 "n_3")]], [("ids", .value ids), ("n", .null .unknown)]⟩
    let prepared : Prepared := ⟨expansion.fragment,
      [⟨marker 0 "ids", .value (.int 1)⟩, ⟨marker 1 "ids_1", .value (.int 2)⟩,
        ⟨marker 2 "n", .null .unknown⟩, ⟨marker 3 "n_3", .null .unknown⟩], none⟩
    Dialect.sigil? (fun char => char == 'é') .sqlserver = some sigil ∧
      parse text = .ok template ∧ template.Free sigil.sign ∧
      template.expand Dialect.sqlserver.markerStyle source = .ok expansion ∧
      (expansion.run []).finish = .ok prepared ∧ ¬ template.Fuses sigil source ∧
      sigil.references (stretches prepared.sql.toList) =
        ["@ids".toList, "@ids_1".toList, "@n".toList, "@n_3".toList] := by
  intro text sigil template ids source marker expansion prepared
  have known : Dialect.sigil? (fun char => char == 'é') .sqlserver = some sigil := rfl
  have parsed : parse text = .ok template := by decide +kernel
  have free : template.Free sigil.sign := by
    simp [Free, template, sigil, Sigil.atSign, Token.source]
  have expanded : template.expand Dialect.sqlserver.markerStyle source = .ok expansion := by rfl
  have finished : (expansion.run []).finish = .ok prepared := by rfl
  have apart : ¬ template.Fuses sigil source := by
    rintro ⟨name, char, text, inside, ends, _⟩
    simp [template, List.infix_cons_iff] at inside
    obtain ⟨rfl, _⟩ := inside
    cases ends
  have back := finish_readBack known parsed free expanded finished
  exact ⟨known, parsed, free, expanded, finished, apart, back.exactly.mpr apart⟩

/-- A digit behind a name in braces is taken for a digit of the placeholder. -/
theorem finish_readBack_fused :
    let template : Template := ⟨[.parameter .braces ['a'], .plain ['1']]⟩
    let source : Source := .set .empty "a" (.int 7)
    let marker : Marker := ⟨"$1", .index 0, 0⟩
    let prepared : Prepared :=
      ⟨[.slot marker, .text "1"], [⟨marker, .value (.int 7)⟩], none⟩
    parse ":\x7ba\x7d1" = .ok template ∧ template.Free Sigil.dollar.sign ∧
      template.finished Dialect.postgres.markerStyle source [] = .ok prepared ∧
      prepared.sql = "$11" ∧ Sigil.dollar.references (stretches prepared.sql.toList) = ["$11".toList] ∧
      Sigil.dollar.references (stretches prepared.sql.toList) ≠
        prepared.bindings.map fun binding => binding.marker.placeholder.toList := by
  intro template source marker prepared
  have read : Sigil.dollar.references (stretches prepared.sql.toList) = ["$11".toList] := by decide +kernel
  refine ⟨by decide +kernel, ?_, by rfl, by rfl, read, ?_⟩
  · simp [Free, template, Sigil.dollar, Token.source]
  · rw [read]
    decide

end Template

end BindPlan
