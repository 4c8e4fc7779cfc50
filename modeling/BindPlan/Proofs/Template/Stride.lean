import BindPlan.Proofs.Text.Utf8
import BindPlan.Template.Cursor

namespace BindPlan.Template

open Text

namespace Region

theorem opener_narrow (kind : Region) : ∀ char ∈ kind.opener, char.toNat < 128 := by
  cases kind <;> simp [opener]

theorem closer_narrow (kind : Region) : ∀ char ∈ kind.closer, char.toNat < 128 := by
  cases kind <;> simp [closer]

theorem closer_ne_nil (kind : Region) : kind.closer ≠ [] := by
  cases kind <;> simp [closer]

/-- A text opens the first region whose opener it starts with. -/
theorem opened?_eq (chars : List Char) :
    opened? chars = (all.find? fun kind => kind.opener.isPrefixOf chars).map fun kind =>
      (kind, chars.drop kind.opener.length) := by
  unfold opened?
  split
  · rfl
  · rfl
  · rfl
  · rfl
  · rename_i single double line block
    have closed (kind : Region) : kind.opener.isPrefixOf chars = false := by
      rw [Bool.eq_false_iff]
      intro opens
      obtain ⟨rest, rfl⟩ := List.isPrefixOf_iff_prefix.mp opens
      cases kind with
      | singleQuoted => exact single rest rfl
      | doubleQuoted => exact double rest rfl
      | lineComment => exact line rest rfl
      | blockComment => exact block rest rfl
    simp [all, closed]

theorem lengthThrough_append {needle front : List UInt8} (rest : List UInt8)
    (apart : ∀ byte ∈ front, needle.head? ≠ some byte) (filled : needle ≠ []) :
    lengthThrough needle (front ++ rest) = front.length + lengthThrough needle rest := by
  induction front with
  | nil => simp
  | cons byte front inductionHypothesis =>
      obtain ⟨first, needle, rfl⟩ := List.exists_cons_of_ne_nil filled
      have differs : (first == byte) = false := by
        rw [beq_eq_false_iff_ne]
        rintro rfl
        exact apart first List.mem_cons_self rfl
      rw [List.cons_append, lengthThrough, List.isPrefixOf_cons_cons, differs, Bool.false_and,
        if_neg Bool.false_ne_true,
        inductionHypothesis fun other member => apart other (.tail _ member), List.length_cons]
      omega

/-- The bytes through the first closer are those of the text through it. -/
theorem lengthThrough_encode {closer : List Char} (narrow : ∀ char ∈ closer, char.toNat < 128)
    (filled : closer ≠ []) (chars : List Char) :
    lengthThrough (ascii closer) (encode chars) = byteLength (splitAfter closer chars).1 := by
  induction chars with
  | nil => rfl
  | cons char rest inductionHypothesis =>
      by_cases first : char.toNat < 128
      · have here := isPrefixOf_encode narrow (char :: rest)
        rw [encode_cons, encode_narrow first, List.singleton_append] at here ⊢
        rw [lengthThrough, here, splitAfter]
        split
        · rw [byteLength_narrow narrow, ascii, List.length_map]
        · rw [inductionHypothesis, byteLength_cons, (utf8Size_eq_one_iff char).mpr first, Nat.add_comm]
      · obtain ⟨sought, others, rfl⟩ := List.exists_cons_of_ne_nil filled
        have soughtNarrow := narrow sought List.mem_cons_self
        have apart : ∀ byte ∈ String.utf8EncodeChar char,
            (ascii (sought :: others)).head? ≠ some byte := by
          intro byte member same
          have high := le_of_mem_encode_wide (by omega : 128 ≤ char.toNat) byte member
          rw [← toNat_ofUInt8, ← Option.some.inj same, ofUInt8_toUInt8 soughtNarrow] at high
          omega
        have differs : (sought :: others).isPrefixOf (char :: rest) = false := by
          rw [List.isPrefixOf_cons_cons, Bool.and_eq_false_imp, beq_iff_eq]
          rintro rfl
          exact absurd soughtNarrow first
        rw [encode_cons, lengthThrough_append _ apart (by simp [ascii]), inductionHypothesis, splitAfter,
          differs, if_neg Bool.false_ne_true, byteLength_cons, String.length_utf8EncodeChar]

/-- The region that the bytes of a text open is that of the text. -/
theorem length?_encode (chars : List Char) :
    length? (encode chars) = (opened? chars).map fun opened =>
      byteLength (opened.1.opener ++ (splitAfter opened.1.closer opened.2).1) := by
  have same : (fun kind : Region => (ascii kind.opener).isPrefixOf (encode chars)) =
      fun kind => kind.opener.isPrefixOf chars := by
    funext kind
    exact isPrefixOf_encode kind.opener_narrow chars
  rw [length?, opened?_eq, same, Option.map_map]
  cases search : all.find? fun kind => kind.opener.isPrefixOf chars with
  | none => rfl
  | some kind =>
      have opens : kind.opener.isPrefixOf chars = true := by simpa using List.find?_some search
      obtain ⟨rest, rfl⟩ := List.isPrefixOf_iff_prefix.mp opens
      have long : kind.opener.length = (encode kind.opener).length := by
        rw [length_encode, byteLength_narrow kind.opener_narrow]
      simp only [Option.map_some, Function.comp_apply, List.drop_left]
      rw [encode_append, long, List.drop_left, lengthThrough_encode kind.closer_narrow
        kind.closer_ne_nil, length_encode, byteLength_append]

end Region

namespace NameForm

/-- The text in front of a name. -/
def opening : NameForm → List Char
  | colon => [':']
  | ampersand => ['&']
  | braces => [':', '\x7b']

/-- The text behind a name. -/
def closing : NameForm → List Char
  | colon | ampersand => []
  | braces => ['\x7d']

theorem byteLength_opening (form : NameForm) : byteLength form.opening = form.lead := by
  cases form <;> rfl

theorem byteLength_closing (form : NameForm) : byteLength form.closing = form.trail := by
  cases form <;> rfl

theorem parameterText_eq (form : NameForm) (name : List Char) :
    Token.parameterText form name = form.opening ++ name ++ form.closing := by
  cases form <;> simp [Token.parameterText, opening, closing]

end NameForm

/-- The stride over the bytes of a token. -/
def Token.stride : Token → Stride
  | region text | plain text => .pass (byteLength text)
  | escapedColon => .escape
  | parameter form name => .name form (byteLength name)

theorem Token.length_stride (token : Token) : token.stride.length = byteLength token.source := by
  cases token with
  | region text => rfl
  | plain text => rfl
  | escapedColon => rfl
  | parameter form name =>
      rw [source, form.parameterText_eq, byteLength_append, byteLength_append, form.byteLength_opening,
        form.byteLength_closing]
      rfl

/-- Behind the stride over a token are the bytes of the text behind the token. -/
theorem Token.drop_stride {char : Char} {chars rest : List Char} {token : Token}
    (reads : Token.next char chars = .ok (token, rest)) :
    (encode (char :: chars)).drop token.stride.length = encode rest := by
  rw [length_stride, ← length_encode, ← next_append reads, encode_append, List.drop_left]

theorem separators_narrow : ∀ char ∈ Token.whiteSpace ++ Token.punctuation, char.toNat < 128 := by
  simp [Token.whiteSpace, Token.punctuation]

theorem isSeparator_wide (char : Char) (wide : 128 ≤ char.toNat) :
    (!Token.isSeparator char) = true := by
  rw [Bool.not_eq_true', Bool.eq_false_iff]
  intro separates
  have member : char ∈ Token.whiteSpace ++ Token.punctuation := by
    simpa [Token.isSeparator] using separates
  have := separators_narrow char member
  omega

theorem narrow_of_endsBracedName {char : Char} (ends : Token.endsBracedName char = true) :
    char.toNat < 128 := by
  simp only [Token.endsBracedName, Bool.or_eq_true, beq_iff_eq] at ends
  rcases ends with (rfl | rfl) | rfl <;> decide

theorem endsBracedName_wide (char : Char) (wide : 128 ≤ char.toNat) :
    (!Token.endsBracedName char) = true := by
  rw [Bool.not_eq_true', Bool.eq_false_iff]
  intro ends
  have := narrow_of_endsBracedName ends
  omega

namespace Stride

theorem isEmpty_encode (chars : List Char) : (encode chars).isEmpty = chars.isEmpty := by
  cases chars with
  | nil => rfl
  | cons char rest => simp [String.utf8EncodeChar_ne_nil]

/-- The bytes behind the run of a text are those of the text behind its run. -/
theorem drop_length_takeWhile {holds : Char → Bool} (chars : List Char) :
    (encode chars).drop (encode (chars.takeWhile holds)).length = encode (chars.dropWhile holds) := by
  have whole := congrArg encode (List.takeWhile_append_dropWhile (p := holds) (l := chars))
  rw [encode_append] at whole
  rw [← whole, List.drop_left]

theorem named_encode (form : NameForm) (sign : Char) (narrow : sign.toNat < 128) (text : List Char) :
    named form (encode text) = (Token.named form sign text).1.stride := by
  unfold named Token.named
  rw [takeWhile_encode isSeparator_wide]
  simp only [isEmpty_encode]
  split
  · rw [Token.stride, byteLength_cons, (utf8Size_eq_one_iff sign).mpr narrow]
    rfl
  · rw [Token.stride, length_encode]

theorem braced_encode (text : List Char) :
    braced (encode text) = (Token.braced text).map fun read => read.1.stride := by
  have narrow : ∀ char rest, (text.dropWhile fun char => !Token.endsBracedName char) = char :: rest →
      char.toNat < 128 := by
    intro char rest behind
    have stops := List.head?_dropWhile_not (fun char => !Token.endsBracedName char) text
    rw [behind] at stops
    apply narrow_of_endsBracedName
    simpa using stops
  unfold braced Token.braced
  rw [takeWhile_encode endsBracedName_wide]
  simp only [drop_length_takeWhile, isEmpty_encode]
  cases behind : text.dropWhile fun char => !Token.endsBracedName char with
  | nil => rfl
  | cons char rest =>
      have first := narrow char rest behind
      rw [encode_cons, encode_narrow first, List.singleton_append]
      simp only [ofUInt8_toUInt8 first]
      by_cases closes : char = '\x7d'
      · subst closes
        rw [if_pos rfl]
        simp only [Except.map]
        split
        · rfl
        · rw [Token.stride, length_encode]
      · rw [if_neg closes]
        split
        · rename_i same; cases same
        · rename_i same; cases same; exact absurd rfl closes
        · rename_i same; cases same; rfl

/-- The first byte of a text is that of a character of ASCII where the text starts with it. -/
theorem head?_encode {char : Char} (narrow : char.toNat < 128) (text : List Char) :
    (encode text).head?.map Char.ofUInt8 = some char ↔ text.head? = some char := by
  rcases head_encode text with ⟨first, rest, rfl, firstNarrow, encoded⟩ | high
  · rw [encoded, List.head?_cons, Option.map_some, ofUInt8_toUInt8 firstNarrow, List.head?_cons]
  · constructor
    · intro same
      obtain ⟨byte, first, rfl⟩ := Option.map_eq_some_iff.mp same
      have := high byte first
      rw [toNat_ofUInt8] at narrow
      omega
    · intro same
      obtain ⟨rest, rfl⟩ := List.head?_eq_some_iff.mp same
      have := high char.toUInt8 (by rw [encode_cons, encode_narrow narrow]; rfl)
      rw [← toNat_ofUInt8, ofUInt8_toUInt8 narrow] at this
      omega

/-- At the bytes of a character of ASCII stands the stride of the token. -/
theorem next_encode {char : Char} (narrow : char.toNat < 128) (text : List Char) :
    next char.toUInt8 (encode text) = (Token.next char text).map fun read => read.1.stride := by
  have whole : char.toUInt8 :: encode text = encode (char :: text) := by
    rw [encode_cons, encode_narrow narrow, List.singleton_append]
  unfold next Token.next
  rw [whole, Region.length?_encode, ofUInt8_toUInt8 narrow]
  cases opens : Region.opened? (char :: text) with
  | some opened => rfl
  | none =>
      simp only [Option.map_none]
      have colon := head?_encode (by decide : (':' : Char).toNat < 128) text
      have brace := head?_encode (by decide : ('\x7b' : Char).toNat < 128) text
      split
      · rename_i ahead
        obtain ⟨rest, rfl⟩ := List.head?_eq_some_iff.mp (colon.mp ahead)
        rfl
      · rename_i ahead
        obtain ⟨rest, rfl⟩ := List.head?_eq_some_iff.mp (brace.mp ahead)
        rw [encode_cons, encode_narrow (by decide), List.singleton_append, List.tail_cons]
        exact braced_encode rest
      · rename_i noColon noBrace
        rw [colon] at noColon
        rw [brace] at noBrace
        split
        · exact absurd rfl noColon
        · exact absurd rfl noBrace
        · rw [named_encode .colon ':' narrow]
          rfl
        all_goals simp_all
      · rw [named_encode .ampersand '&' narrow]
        rfl
      · rename_i ahead
        obtain ⟨rest, rfl⟩ := List.head?_eq_some_iff.mp (colon.mp ahead)
        rfl
      · rename_i sign _ _ noColon noAmpersand _ _ noEscape
        rw [colon] at noEscape
        split
        · exact absurd rfl noColon
        · exact absurd rfl noColon
        · exact absurd rfl noColon
        · exact absurd rfl noAmpersand
        · exact absurd rfl (noEscape rfl)
        · rw [Except.map, Token.stride, byteLength_cons, (utf8Size_eq_one_iff sign).mpr narrow]
          rfl

/-- A character that is not of ASCII is a token of its own. -/
theorem next_wide {char : Char} (wide : 128 ≤ char.toNat) (text : List Char) :
    Token.next char text = .ok (.plain [char], text) := by
  have differs (other : Char) (narrow : other.toNat < 128) : char ≠ other := by
    rintro rfl
    omega
  unfold Token.next Region.opened?
  split
  · rename_i opens
    split at opens
    all_goals simp_all
  · split
    all_goals simp_all

/-- Faults are found at characters of ASCII only. -/
theorem narrow_of_fault {char : Char} {chars : List Char} {fault : TemplateFault}
    (reads : Token.next char chars = .error fault) : char.toNat < 128 := by
  by_contra wide
  rw [next_wide (by omega)] at reads
  cases reads

/-- A byte that is not of ASCII is passed over alone. -/
theorem next_byte {byte : UInt8} (wide : 128 ≤ byte.toNat) (bytes : List UInt8) :
    next byte bytes = .ok (.pass 1) := by
  have differs (other : Char) (narrow : other.toNat < 128) : Char.ofUInt8 byte ≠ other := by
    rintro rfl
    rw [toNat_ofUInt8] at narrow
    omega
  have closed : Region.length? (byte :: bytes) = none := by
    rw [Region.length?, Option.map_eq_none_iff, List.find?_eq_none]
    intro kind _ opens
    have first := kind.opener_narrow
    cases kind
    all_goals
      rw [Region.opener] at opens first
      rw [ascii, List.map_cons, List.isPrefixOf_cons_cons, Bool.and_eq_true, beq_iff_eq] at opens
      have sign := first _ List.mem_cons_self
      exact differs _ sign (by rw [← opens.1, ofUInt8_toUInt8 sign])
  unfold next
  rw [closed]
  simp only
  split
  · rename_i sign _; exact absurd sign (differs ':' (by decide))
  · rename_i sign _; exact absurd sign (differs ':' (by decide))
  · rename_i sign _ _; exact absurd sign (differs ':' (by decide))
  · rename_i sign; exact absurd sign (differs '&' (by decide))
  · rename_i sign _; exact absurd sign (differs '\\' (by decide))
  · rfl

end Stride

end BindPlan.Template
