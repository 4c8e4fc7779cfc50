import BindPlan.Proofs.Template.Grammar
import BindPlan.Proofs.Template.Stride
import Mathlib.Data.List.Infix
import Mathlib.Data.List.TakeWhile

namespace BindPlan.Template.Grammar

open Text

/-- What a stride stands for at the start of some bytes. -/
def lexeme (bytes : List UInt8) : Stride → Lexeme
  | .pass length => .copy (bytes.take length)
  | .escape => .escape
  | .name form length => .parameter ((bytes.drop form.lead).take length)
      (bytes.take (form.lead + length + form.trail))

/-- What is read at the start of some bytes where a stride or a fault was found. -/
def reading (bytes : List UInt8) (found : Except TemplateFault Stride) : Reading :=
  found.map fun stride => (lexeme bytes stride, bytes.drop stride.length)

section Regions

variable {needle body rest bytes : List UInt8}

theorem mem_regions {pair : List UInt8 × List UInt8} :
    pair ∈ regions ↔ ∃ kind : Region, pair = (ascii kind.opener, ascii kind.closer) := by
  have same : regions = Region.all.map fun kind => (ascii kind.opener, ascii kind.closer) := by decide
  rw [same, List.mem_map]
  constructor
  · rintro ⟨kind, _, rfl⟩
    exact ⟨kind, rfl⟩
  · rintro ⟨kind, rfl⟩
    exact ⟨kind, by cases kind <;> decide, rfl⟩

/-- The first needle ends where the length through it says. -/
theorem lengthThrough_of_first (filled : needle ≠ []) (first : First needle body rest) :
    Region.lengthThrough needle (body ++ needle ++ rest) = body.length + needle.length := by
  induction body with
  | nil =>
      obtain ⟨byte, others, rfl⟩ := List.exists_cons_of_ne_nil filled
      have here : (byte :: others).isPrefixOf (byte :: (others ++ rest)) = true :=
        List.isPrefixOf_iff_prefix.mpr ⟨rest, by simp⟩
      simp [Region.lengthThrough, here]
  | cons byte body inductionHypothesis =>
      have elsewhere : ¬ needle.isPrefixOf (byte :: (body ++ needle ++ rest)) = true := by
        intro here
        obtain ⟨back, same⟩ := List.isPrefixOf_iff_prefix.mp here
        have shorter := first [] back (by simpa using same.symm)
        simp at shorter
      rw [List.cons_append, List.cons_append, Region.lengthThrough, if_neg elsewhere,
        inductionHypothesis first.tail, List.length_cons]
      omega

theorem lengthThrough_of_never (never : ¬ needle <:+: bytes) :
    Region.lengthThrough needle bytes = bytes.length := by
  induction bytes with
  | nil => rfl
  | cons byte bytes inductionHypothesis =>
      rw [List.infix_cons_iff, not_or, ← List.isPrefixOf_iff_prefix] at never
      rw [Region.lengthThrough, if_neg never.1, inductionHypothesis never.2, List.length_cons]

theorem ascii_closer_ne_nil (kind : Region) : ascii kind.closer ≠ [] := by
  cases kind <;> decide

theorem length?_opener (kind : Region) (bytes : List UInt8) :
    Region.length? (ascii kind.opener ++ bytes) =
      some (kind.opener.length + Region.lengthThrough (ascii kind.closer) bytes) := by
  cases kind <;> rfl

theorem reading_pass {source : List UInt8} {length : Nat} (long : length = source.length)
    (rest : List UInt8) :
    reading (source ++ rest) (.ok (.pass length)) = .ok (.copy source, rest) := by
  subst long
  simp [reading, lexeme, Except.map, Stride.length]

theorem reading_closed (kind : Region) (first : First (ascii kind.closer) body rest) :
    reading (ascii kind.opener ++ (body ++ ascii kind.closer ++ rest)) (.ok (.pass
      (kind.opener.length +
        Region.lengthThrough (ascii kind.closer) (body ++ ascii kind.closer ++ rest)))) =
      .ok (.copy (ascii kind.opener ++ body ++ ascii kind.closer), rest) := by
  have whole : ascii kind.opener ++ (body ++ ascii kind.closer ++ rest) =
      ascii kind.opener ++ body ++ ascii kind.closer ++ rest := by
    simp only [List.append_assoc]
  rw [lengthThrough_of_first (ascii_closer_ne_nil kind) first, whole]
  apply reading_pass
  simp only [ascii, List.length_append, List.length_map, Nat.add_assoc]

theorem reading_unclosed (kind : Region) (never : ¬ ascii kind.closer <:+: body) :
    reading (ascii kind.opener ++ body) (.ok (.pass
      (kind.opener.length + Region.lengthThrough (ascii kind.closer) body))) =
      .ok (.copy (ascii kind.opener ++ body), []) := by
  have long : kind.opener.length + body.length = (ascii kind.opener ++ body).length := by
    rw [List.length_append, ascii, List.length_map]
  have reads := reading_pass long []
  rw [List.append_nil] at reads
  rw [lengthThrough_of_never never, reads]

/-- A region is read where a region is open, up to where that region ends. -/
theorem skipRegion_iff {found : Reading} :
    SkipRegion bytes found ↔
      ∃ length, Region.length? bytes = some length ∧ found = reading bytes (.ok (.pass length)) := by
  constructor
  · intro reads
    cases reads with
    | closed member first =>
        obtain ⟨kind, same⟩ := mem_regions.mp member
        cases same
        exact ⟨_, length?_opener kind _, (reading_closed kind first).symm⟩
    | unclosed member never =>
        obtain ⟨kind, same⟩ := mem_regions.mp member
        cases same
        exact ⟨_, length?_opener kind _, (reading_unclosed kind never).symm⟩
  · rintro ⟨length, opens, rfl⟩
    obtain ⟨kind, search, _⟩ := Option.map_eq_some_iff.mp opens
    have starts : (ascii kind.opener).isPrefixOf bytes = true := by simpa using List.find?_some search
    obtain ⟨rest, rfl⟩ := List.isPrefixOf_iff_prefix.mp starts
    have member := mem_regions.mpr ⟨kind, rfl⟩
    rw [length?_opener] at opens
    cases opens
    rcases first_or_never (ascii kind.closer) rest with ⟨body, rest, rfl, first⟩ | never
    · rw [reading_closed kind first]
      exact .closed member first
    · rw [reading_unclosed kind never]
      exact .unclosed member never

end Regions

section Runs

variable {run rest : List UInt8} {byte : UInt8} {bytes : List UInt8} {found : Reading}

theorem mem_separators : byte ∈ separators ↔ Token.isSeparator (.ofUInt8 byte) = true := by
  have same : separators.Perm (ascii (Token.whiteSpace ++ Token.punctuation)) := by decide
  rw [same.mem_iff, ← contains_ofUInt8 separators_narrow, Token.isSeparator]
  simp

theorem mem_stops : byte ∈ stops ↔ Token.endsBracedName (.ofUInt8 byte) = true := by
  have same : stops = ascii [':', '\x7b', '\x7d'] := by decide
  have narrow : ∀ char ∈ [':', '\x7b', '\x7d'], char.toNat < 128 := by simp
  rw [same, ← contains_ofUInt8 narrow, Token.endsBracedName]
  simp [or_assoc]

/-- Bytes start with a longest run of bytes that are none of the given ones. -/
theorem exists_run (ends bytes : List UInt8) :
    ∃ run rest, bytes = run ++ rest ∧ (∀ byte ∈ run, byte ∉ ends) ∧ ∀ byte ∈ rest.head?, byte ∈ ends := by
  refine ⟨bytes.takeWhile (· ∉ ends), bytes.dropWhile (· ∉ ends), ?_, ?_, ?_⟩
  · exact List.takeWhile_append_dropWhile.symm
  · intro byte member
    simpa using List.mem_takeWhile_imp member
  · intro byte first
    have stops := List.head?_dropWhile_not (fun byte => decide (byte ∉ ends)) bytes
    rw [first] at stops
    simpa using stops

theorem takeWhile_run {ends : List UInt8} {holds : UInt8 → Bool}
    (same : ∀ byte, byte ∈ ends ↔ holds byte = true) (inside : ∀ byte ∈ run, byte ∉ ends)
    (outside : ∀ byte ∈ rest.head?, byte ∈ ends) :
    (run ++ rest).takeWhile (fun byte => !holds byte) = run := by
  have kept : ∀ byte ∈ run, (!holds byte) = true := by
    intro byte member
    simpa [same] using inside byte member
  rw [List.takeWhile_append_of_pos kept]
  cases rest with
  | nil => simp
  | cons byte rest =>
      have stops := (same byte).mp (outside byte rfl)
      simp [stops]

end Runs

section Rules

variable {byte : UInt8} {bytes : List UInt8} {found : Reading}

/-- Two characters of ASCII at the start of some bytes. -/
theorem two_bytes {first second : Char} (firstNarrow : first.toNat < 128)
    (secondNarrow : second.toNat < 128) (sign : Char.ofUInt8 byte = first)
    (ahead : bytes.head?.map Char.ofUInt8 = some second) :
    byte = first.toUInt8 ∧ ∃ rest, bytes = second.toUInt8 :: rest := by
  obtain ⟨other, head, same⟩ := Option.map_eq_some_iff.mp ahead
  obtain ⟨rest, rfl⟩ := List.head?_eq_some_iff.mp head
  rw [(ofUInt8_eq_iff secondNarrow).mp same]
  exact ⟨(ofUInt8_eq_iff firstNarrow).mp sign, rest, rfl⟩

theorem fixed_iff {lexeme : Lexeme} {first second : Char} {stride : Stride}
    (firstNarrow : first.toNat < 128) (secondNarrow : second.toNat < 128)
    (source : lexeme.source = [first.toUInt8, second.toUInt8])
    (stands : ∀ rest, reading (lexeme.source ++ rest) (.ok stride) = .ok (lexeme, rest)) :
    Fixed lexeme (byte :: bytes) found ↔
      Char.ofUInt8 byte = first ∧ bytes.head?.map Char.ofUInt8 = some second ∧
        found = reading (byte :: bytes) (.ok stride) := by
  constructor
  · generalize whole : byte :: bytes = all
    rintro ⟨rest⟩
    rw [stands]
    rw [source] at whole
    obtain ⟨rfl, rfl⟩ := List.cons.inj whole
    exact ⟨ofUInt8_toUInt8 firstNarrow, congrArg some (ofUInt8_toUInt8 secondNarrow), rfl⟩
  · rintro ⟨sign, ahead, rfl⟩
    obtain ⟨rfl, rest, rfl⟩ := two_bytes firstNarrow secondNarrow sign ahead
    have reads : Fixed lexeme (lexeme.source ++ rest) (.ok (lexeme, rest)) := .read rest
    rw [← stands, source] at reads
    exact reads

theorem cast_iff : Cast (byte :: bytes) found ↔
    Char.ofUInt8 byte = ':' ∧ bytes.head?.map Char.ofUInt8 = some ':' ∧
      found = reading (byte :: bytes) (.ok (.pass 2)) :=
  fixed_iff (by decide) (by decide) rfl fun _ => rfl

theorem escape_iff : Escape (byte :: bytes) found ↔
    Char.ofUInt8 byte = '\\' ∧ bytes.head?.map Char.ofUInt8 = some ':' ∧
      found = reading (byte :: bytes) (.ok .escape) :=
  fixed_iff (by decide) (by decide) rfl fun _ => rfl

theorem other_iff : Other (byte :: bytes) found ↔
    found = reading (byte :: bytes) (.ok (.pass 1)) := by
  constructor
  · rintro ⟨⟩
    rfl
  · rintro rfl
    exact .read byte bytes

theorem named_run {run rest : List UInt8} (form : NameForm) (inside : ∀ byte ∈ run, byte ∉ separators)
    (outside : ∀ byte ∈ rest.head?, byte ∈ separators) :
    Stride.named form (run ++ rest) = if run.isEmpty then .pass 1 else .name form run.length := by
  unfold Stride.named
  rw [takeWhile_run (fun _ => mem_separators) inside outside]

theorem reading_sign {form : NameForm} (lead : form.lead = 1) (trail : form.trail = 0) (sign : UInt8)
    (name rest : List UInt8) :
    reading (sign :: (name ++ rest)) (.ok (.name form name.length)) =
      .ok (.parameter name (sign :: name), rest) := by
  simp [reading, lexeme, Except.map, Stride.length, lead, trail, Nat.add_comm 1]

/-- A name is read behind a sign where one is there. -/
theorem named_iff : Named (byte :: bytes) found ↔
    ∃ form length, (form, Char.ofUInt8 byte) ∈ [(NameForm.colon, ':'), (NameForm.ampersand, '&')] ∧
      Stride.named form bytes = .name form length ∧
      found = reading (byte :: bytes) (.ok (.name form length)) := by
  constructor
  · generalize whole : byte :: bytes = source
    rintro @⟨sign, name, rest, signs, filled, inside, outside⟩
    have named (form : NameForm) := named_run form inside outside
    simp only [List.isEmpty_iff, if_neg filled] at named
    rcases List.mem_pair.mp signs with rfl | rfl
    · obtain ⟨rfl, rfl⟩ := List.cons.inj whole
      exact ⟨.colon, name.length, by decide, named .colon, (reading_sign rfl rfl _ name rest).symm⟩
    · obtain ⟨rfl, rfl⟩ := List.cons.inj whole
      exact ⟨.ampersand, name.length, by decide, named .ampersand,
        (reading_sign rfl rfl _ name rest).symm⟩
  · rintro ⟨form, length, sign, named, rfl⟩
    obtain ⟨run, rest, rfl, inside, outside⟩ := exists_run separators bytes
    rw [named_run form inside outside] at named
    split at named
    · cases named
    · rename_i filled
      cases named
      rw [List.isEmpty_iff] at filled
      simp only [List.mem_cons, Prod.mk.injEq, List.not_mem_nil, or_false] at sign
      rcases sign with ⟨rfl, sign⟩ | ⟨rfl, sign⟩
      · have signs : utf8 ":" ∈ [utf8 ":", utf8 "&"] := by decide
        rw [(ofUInt8_eq_iff (by decide)).mp sign, reading_sign rfl rfl]
        exact .read signs filled inside outside
      · have signs : utf8 "&" ∈ [utf8 ":", utf8 "&"] := by decide
        rw [(ofUInt8_eq_iff (by decide)).mp sign, reading_sign rfl rfl]
        exact .read signs filled inside outside

theorem braced_stop {run : List UInt8} {stop : UInt8} (inside : ∀ byte ∈ run, byte ∉ stops)
    (outside : stop ∈ stops) (rest : List UInt8) :
    Stride.braced (run ++ stop :: rest) =
      if Char.ofUInt8 stop = '\x7d' then
        .ok (if run.isEmpty then .pass 3 else .name .braces run.length)
      else .error (.forbiddenInName (.ofUInt8 stop)) := by
  have ends : ∀ byte ∈ (stop :: rest).head?, byte ∈ stops := by simpa using outside
  unfold Stride.braced
  rw [takeWhile_run (fun _ => mem_stops) inside ends]
  simp only [List.drop_left]

theorem braced_end {run : List UInt8} (inside : ∀ byte ∈ run, byte ∉ stops) :
    Stride.braced run = .error .unterminatedName := by
  have outside : ∀ byte ∈ ([] : List UInt8).head?, byte ∈ stops := by simp
  have whole := takeWhile_run (fun _ => mem_stops) inside outside
  rw [List.append_nil] at whole
  unfold Stride.braced
  simp only [whole, List.drop_length]

theorem reading_braces (name rest : List UInt8) :
    reading (utf8 ":\x7b" ++ (name ++ (utf8 "\x7d" ++ rest))) (.ok (.name .braces name.length)) =
      .ok (.parameter name (utf8 ":\x7b" ++ name ++ utf8 "\x7d"), rest) := by
  have opening : utf8 ":\x7b" = [58, 123] := by decide
  have closing : utf8 "\x7d" = [125] := by decide
  have long : 2 + name.length + 1 = name.length + 1 + 1 + 1 := by omega
  simp [opening, closing, reading, lexeme, Except.map, Stride.length, NameForm.lead, NameForm.trail,
    long, List.take_append, List.drop_append, List.take_of_length_le]

/-- Behind a colon and an opening brace stands a name, empty braces or a fault. -/
theorem braced_iff : Braced (byte :: bytes) found ↔
    Char.ofUInt8 byte = ':' ∧ bytes.head?.map Char.ofUInt8 = some '\x7b' ∧
      found = reading (byte :: bytes) (Stride.braced bytes.tail) := by
  have closes : Char.ofUInt8 125 = '\x7d' := rfl
  constructor
  · generalize whole : byte :: bytes = source
    intro reads
    cases reads with
    | @parameter name filled inside rest =>
        obtain ⟨rfl, rfl⟩ := List.cons.inj whole
        have stops := braced_stop inside (by decide : 125 ∈ stops) rest
        rw [if_pos closes, if_neg (by simpa using filled)] at stops
        exact ⟨rfl, rfl, (reading_braces name rest).symm.trans (congrArg (reading _) stops.symm)⟩
    | empty rest =>
        obtain ⟨rfl, rfl⟩ := List.cons.inj whole
        exact ⟨rfl, rfl, rfl⟩
    | @colon body inside rest =>
        obtain ⟨rfl, rfl⟩ := List.cons.inj whole
        have stops := braced_stop inside (by decide : 58 ∈ stops) rest
        exact ⟨rfl, rfl, congrArg (reading _) stops.symm⟩
    | @brace body inside rest =>
        obtain ⟨rfl, rfl⟩ := List.cons.inj whole
        have stops := braced_stop inside (by decide : 123 ∈ stops) rest
        exact ⟨rfl, rfl, congrArg (reading _) stops.symm⟩
    | @unterminated body inside =>
        obtain ⟨rfl, rfl⟩ := List.cons.inj whole
        exact ⟨rfl, rfl, congrArg (reading _) (braced_end inside).symm⟩
  · rintro ⟨sign, ahead, rfl⟩
    obtain ⟨rfl, rest, rfl⟩ := two_bytes (by decide) (by decide) sign ahead
    obtain ⟨run, rest, rfl, inside, outside⟩ := exists_run stops rest
    rw [List.tail_cons]
    cases rest with
    | nil =>
        rw [List.append_nil, braced_end inside]
        exact .unterminated inside
    | cons stop rest =>
        have kind : stop ∈ stops := outside stop rfl
        rw [braced_stop inside kind]
        have listed : stops = [58, 123, 125] := by decide
        rw [listed] at kind
        simp only [List.mem_cons, List.not_mem_nil, or_false] at kind
        rcases kind with rfl | rfl | rfl
        · exact .colon inside rest
        · exact .brace inside rest
        · rw [if_pos closes]
          by_cases empty : run = []
          · subst empty
            exact .empty rest
          · rw [if_neg (by simpa using empty)]
            have reads := Braced.parameter empty inside rest
            rw [← reading_braces] at reads
            exact reads

theorem firstOf_applies {rule : Rule} {expected : Reading} (rules : List Rule)
    (reads : ∀ other, rule bytes other ↔ other = expected) :
    FirstOf bytes (rule :: rules) found ↔ found = expected := by
  constructor
  · intro first
    cases first with
    | applies _ read => exact (reads found).mp read
    | passes refuses _ => exact absurd ((reads expected).mpr rfl) (refuses expected)
  · rintro rfl
    exact .applies rules ((reads _).mpr rfl)

theorem firstOf_passes {rule : Rule} (rules : List Rule) (refuses : ∀ other, ¬ rule bytes other) :
    FirstOf bytes (rule :: rules) found ↔ FirstOf bytes rules found := by
  constructor
  · intro first
    cases first with
    | applies _ read => exact absurd read (refuses found)
    | passes _ later => exact later
  · exact .passes refuses

/-- A sign is followed by a name or passed over. -/
theorem named_cases (form : NameForm) (bytes : List UInt8) :
    Stride.named form bytes = .pass 1 ∨ ∃ length, Stride.named form bytes = .name form length := by
  unfold Stride.named
  simp only
  split
  · exact .inl rfl
  · exact .inr ⟨_, rfl⟩

/-- Behind a sign that no earlier rule reads stands a name, or the sign is read alone. -/
theorem firstOf_sign {form : NameForm}
    (sign : (form, Char.ofUInt8 byte) ∈ [(NameForm.colon, ':'), (NameForm.ampersand, '&')]) :
    FirstOf (byte :: bytes) [Named, Escape, Other] found ↔
      found = reading (byte :: bytes) (.ok (Stride.named form bytes)) := by
  have same {other : NameForm}
      (otherSign : (other, Char.ofUInt8 byte) ∈ [(NameForm.colon, ':'), (NameForm.ampersand, '&')]) :
      other = form := by
    cases form <;> cases other <;> simp_all
  rcases named_cases form bytes with alone | ⟨length, named⟩
  · have unnamed : ∀ other, ¬ Named (byte :: bytes) other := by
      intro other
      rw [named_iff]
      rintro ⟨form, length, otherSign, named, _⟩
      rw [same otherSign, alone] at named
      cases named
    have unescaped : ∀ other, ¬ Escape (byte :: bytes) other := by
      intro other
      rw [escape_iff]
      rintro ⟨backslash, _⟩
      rw [backslash] at sign
      simp at sign
    rw [firstOf_passes _ unnamed, firstOf_passes _ unescaped, alone]
    exact firstOf_applies [] fun other => other_iff
  · rw [named]
    apply firstOf_applies
    intro other
    rw [named_iff]
    constructor
    · rintro ⟨_, _, otherSign, found, rfl⟩
      rw [← found, same otherSign, named]
    · rintro rfl
      exact ⟨form, length, sign, named, rfl⟩

/-- The first rule that applies reads what the stride passes over. -/
theorem firstOf_rules_iff : FirstOf (byte :: bytes) rules found ↔
    found = reading (byte :: bytes) (Stride.next byte bytes) := by
  unfold rules Stride.next
  cases opens : Region.length? (byte :: bytes) with
  | some length =>
      apply firstOf_applies
      intro other
      rw [skipRegion_iff, opens]
      simp
  | none =>
      have outside : ∀ other, ¬ SkipRegion (byte :: bytes) other := by
        intro other
        rw [skipRegion_iff, opens]
        simp
      rw [firstOf_passes _ outside]
      simp only
      split
      · rename_i sign ahead
        apply firstOf_applies
        intro other
        simp [cast_iff, sign, ahead]
      · rename_i sign ahead
        rw [firstOf_passes _ (by simp [cast_iff, ahead])]
        apply firstOf_applies
        intro other
        simp [braced_iff, sign, ahead]
      · rename_i sign noCast noBrace
        rw [firstOf_passes _ fun _ reads => noCast (cast_iff.mp reads).2.1,
          firstOf_passes _ fun _ reads => noBrace (braced_iff.mp reads).2.1]
        exact firstOf_sign (by simp [sign])
      · rename_i sign
        rw [firstOf_passes _ (by simp [cast_iff, sign]), firstOf_passes _ (by simp [braced_iff, sign])]
        exact firstOf_sign (by simp [sign])
      · rename_i sign ahead
        rw [firstOf_passes _ (by simp [cast_iff, sign]), firstOf_passes _ (by simp [braced_iff, sign]),
          firstOf_passes _ (by simp [named_iff, sign])]
        apply firstOf_applies
        intro other
        simp [escape_iff, sign, ahead]
      · rename_i noColon noAmpersand _ _ noEscape
        have unnamed : ∀ other, ¬ Named (byte :: bytes) other := by
          intro other reads
          obtain ⟨form, length, sign, _⟩ := named_iff.mp reads
          simp only [List.mem_cons, Prod.mk.injEq, List.not_mem_nil, or_false] at sign
          rcases sign with ⟨_, colon⟩ | ⟨_, ampersand⟩
          · exact noColon colon
          · exact noAmpersand ampersand
        rw [firstOf_passes _ fun _ reads => noColon (cast_iff.mp reads).1,
          firstOf_passes _ fun _ reads => noColon (braced_iff.mp reads).1,
          firstOf_passes _ unnamed,
          firstOf_passes _ fun _ reads => noEscape (escape_iff.mp reads).1 (escape_iff.mp reads).2.1]
        exact firstOf_applies [] fun other => other_iff

end Rules

end BindPlan.Template.Grammar
