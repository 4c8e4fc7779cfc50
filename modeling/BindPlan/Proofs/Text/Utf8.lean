import BindPlan.Text.Bytes
import Mathlib.Data.String.Basic
import Mathlib.Tactic.SplitIfs

/-!
Characters and their bytes. A character of ASCII is one byte below 128, and every byte of another
character is above that, so a search for characters of ASCII may go through the bytes of a text.
Slices between the ends of leading parts of a text exist.
-/

namespace BindPlan.Text

/-- The bytes of a list of characters. -/
def encode (chars : List Char) : List UInt8 := chars.flatMap String.utf8EncodeChar

@[simp] theorem encode_nil : encode [] = [] := rfl

@[simp] theorem encode_cons (char : Char) (rest : List Char) :
    encode (char :: rest) = String.utf8EncodeChar char ++ encode rest := List.flatMap_cons

@[simp] theorem encode_append (first second : List Char) :
    encode (first ++ second) = encode first ++ encode second := List.flatMap_append

theorem utf8_ofList (chars : List Char) : utf8 (String.ofList chars) = encode chars := by
  rw [utf8, String.toByteArray_ofList, List.utf8Encode, List.toList_data_toByteArray, encode]

theorem utf8_eq_encode (text : String) : utf8 text = encode text.toList := by
  rw [← utf8_ofList, String.ofList_toList]

theorem toList_loop (bytes : ByteArray) (index : Nat) (reversed : List UInt8) :
    ByteArray.toList.loop bytes index reversed = reversed.reverse ++ bytes.data.toList.drop index := by
  induction index, reversed using ByteArray.toList.loop.induct bytes with
  | case1 index reversed inside inductionHypothesis =>
      have byte : bytes.data.toList.drop index =
          bytes.get! index :: bytes.data.toList.drop (index + 1) := by
        have read : bytes.get! index = bytes.data[index] := getElem!_pos bytes.data index inside
        rw [List.drop_eq_getElem_cons inside, read]
        rfl
      rw [ByteArray.toList.loop, if_pos inside, inductionHypothesis, byte]
      simp
  | case2 index reversed behind =>
      have nothing : bytes.data.toList.drop index = [] := List.drop_eq_nil_of_le (Nat.le_of_not_lt behind)
      rw [ByteArray.toList.loop, if_neg behind, nothing, List.append_nil]

theorem toList_toUTF8 (text : String) : text.toUTF8.toList = utf8 text := toList_loop _ 0 []

/-- A text can be read back from its bytes. -/
theorem fromUTF8?_utf8 (text : String) : String.fromUTF8? (utf8 text).toByteArray = some text := by
  have bytes : (utf8 text).toByteArray = text.toByteArray := by
    apply ByteArray.ext
    exact Array.toList_inj.mp List.toList_data_toByteArray
  rw [bytes]
  exact dif_pos text.isValidUTF8

@[simp] theorem length_encode (chars : List Char) : (encode chars).length = byteLength chars := by
  induction chars with
  | nil => rfl
  | cons char rest inductionHypothesis =>
      simp [inductionHypothesis, String.length_utf8EncodeChar]

theorem utf8Size_eq_one_iff (char : Char) : char.utf8Size = 1 ↔ char.toNat < 128 := by
  rw [Char.utf8Size_eq_one_iff, UInt32.le_iff_toNat_le, Char.toNat]
  change char.val.toNat ≤ 127 ↔ _
  omega

/-- Characters of ASCII take one byte each. -/
theorem byteLength_narrow {chars : List Char} (narrow : ∀ char ∈ chars, char.toNat < 128) :
    byteLength chars = chars.length := by
  induction chars with
  | nil => rfl
  | cons char rest inductionHypothesis =>
      rw [byteLength_cons, (utf8Size_eq_one_iff char).mpr (narrow char List.mem_cons_self),
        inductionHypothesis fun other member => narrow other (.tail _ member), List.length_cons,
        Nat.add_comm]

/-- Of characters of ASCII as many are kept as there are bytes to keep. -/
theorem takeBytes_narrow {chars : List Char} (narrow : ∀ char ∈ chars, char.toNat < 128) (limit : Nat) :
    takeBytes limit chars = chars.take limit := by
  induction chars generalizing limit with
  | nil => rw [takeBytes, List.take_nil]
  | cons char rest inductionHypothesis =>
      have one : char.utf8Size = 1 := (utf8Size_eq_one_iff char).mpr (narrow char List.mem_cons_self)
      cases limit with
      | zero => rw [takeBytes, one, if_neg (Nat.not_succ_le_zero 0), List.take_zero]
      | succ limit =>
          rw [takeBytes, one, if_pos (Nat.le_add_left 1 limit), Nat.add_sub_cancel, List.take_succ_cons,
            inductionHypothesis fun other member => narrow other (.tail _ member)]

theorem encode_narrow {char : Char} (narrow : char.toNat < 128) :
    String.utf8EncodeChar char = [char.toUInt8] :=
  String.utf8EncodeChar_eq_singleton ((utf8Size_eq_one_iff char).mpr narrow)

/-- The bytes of a character that is not of ASCII are above all bytes of ASCII. -/
theorem le_of_mem_encode_wide {char : Char} (wide : 128 ≤ char.toNat) :
    ∀ byte ∈ String.utf8EncodeChar char, 128 ≤ byte.toNat := by
  intro byte member
  rw [String.utf8EncodeChar] at member
  rw [Char.toNat] at wide
  split_ifs at member
  · omega
  all_goals
    simp only [List.mem_cons, List.not_mem_nil, or_false] at member
    rcases member with rfl | rfl | rfl | rfl <;> simp only [UInt8.toNat_ofNat'] <;> omega

theorem toNat_ofUInt8 (byte : UInt8) : (Char.ofUInt8 byte).toNat = byte.toNat :=
  UInt8.toNat_toUInt32 byte

theorem toNat_toUInt8 (char : Char) : char.toUInt8.toNat = char.toNat % 256 :=
  UInt32.toNat_toUInt8 char.val

theorem ofUInt8_toUInt8 {char : Char} (narrow : char.toNat < 128) :
    Char.ofUInt8 char.toUInt8 = char := by
  apply Char.toNat_inj.mp
  rw [toNat_ofUInt8, toNat_toUInt8]
  omega

theorem ofUInt8_eq_iff {byte : UInt8} {char : Char} (narrow : char.toNat < 128) :
    Char.ofUInt8 byte = char ↔ byte = char.toUInt8 := by
  constructor
  · rintro rfl
    rw [toNat_ofUInt8] at narrow
    apply UInt8.toNat_inj.mp
    rw [toNat_toUInt8, toNat_ofUInt8]
    omega
  · rintro rfl
    exact ofUInt8_toUInt8 narrow

theorem contains_ofUInt8 {byte : UInt8} {chars : List Char}
    (narrow : ∀ char ∈ chars, char.toNat < 128) :
    chars.contains (.ofUInt8 byte) = true ↔ byte ∈ ascii chars := by
  rw [List.contains_iff_mem, ascii, List.mem_map]
  constructor
  · intro member
    exact ⟨_, member, ((ofUInt8_eq_iff (narrow _ member)).mp rfl).symm⟩
  · rintro ⟨char, member, rfl⟩
    rwa [ofUInt8_toUInt8 (narrow char member)]

/-- A longest run of bytes is that of the characters, where the run holds all that is not of ASCII. -/
theorem takeWhile_encode {holds : Char → Bool} (wide : ∀ char, 128 ≤ char.toNat → holds char = true)
    (chars : List Char) :
    (encode chars).takeWhile (fun byte => holds (.ofUInt8 byte)) =
      encode (chars.takeWhile holds) := by
  induction chars with
  | nil => rfl
  | cons char rest inductionHypothesis =>
      by_cases narrow : char.toNat < 128
      · rw [encode_cons, encode_narrow narrow, List.singleton_append, List.takeWhile_cons,
          List.takeWhile_cons, ofUInt8_toUInt8 narrow, inductionHypothesis]
        cases holds char with
        | false => rfl
        | true => simp [encode_narrow narrow]
      · have high : 128 ≤ char.toNat := by omega
        have inside : ∀ byte ∈ String.utf8EncodeChar char, holds (.ofUInt8 byte) = true := by
          intro byte member
          apply wide
          rw [toNat_ofUInt8]
          exact le_of_mem_encode_wide high byte member
        rw [encode_cons, List.takeWhile_append_of_pos inside, inductionHypothesis,
          List.takeWhile_cons_of_pos (wide char high), encode_cons]

/-- The first byte of a text is of ASCII where the first character is, and then it is that one. -/
theorem head_encode (chars : List Char) :
    (∃ char rest, chars = char :: rest ∧ char.toNat < 128 ∧ encode chars = char.toUInt8 :: encode rest) ∨
      ∀ byte ∈ (encode chars).head?, 128 ≤ byte.toNat := by
  cases chars with
  | nil => exact .inr (by simp)
  | cons char rest =>
      by_cases narrow : char.toNat < 128
      · refine .inl ⟨char, rest, rfl, narrow, ?_⟩
        rw [encode_cons, encode_narrow narrow, List.singleton_append]
      · refine .inr fun byte first => ?_
        apply le_of_mem_encode_wide (by omega : 128 ≤ char.toNat) byte
        rw [encode_cons, List.head?_append_of_ne_nil _ String.utf8EncodeChar_ne_nil] at first
        exact List.mem_of_head? first

theorem toUInt8_beq {first second : Char} (firstNarrow : first.toNat < 128)
    (secondNarrow : second.toNat < 128) : (first.toUInt8 == second.toUInt8) = (first == second) := by
  rw [Bool.eq_iff_iff, beq_iff_eq, beq_iff_eq]
  constructor
  · intro bytes
    rw [← ofUInt8_toUInt8 firstNarrow, bytes, ofUInt8_toUInt8 secondNarrow]
  · rintro rfl
    rfl

/-- A text starts with characters of ASCII where its bytes start with theirs. -/
theorem isPrefixOf_encode {needle : List Char} (narrow : ∀ char ∈ needle, char.toNat < 128)
    (chars : List Char) : (ascii needle).isPrefixOf (encode chars) = needle.isPrefixOf chars := by
  induction needle generalizing chars with
  | nil => simp [ascii]
  | cons sought needle inductionHypothesis =>
      have soughtNarrow : sought.toNat < 128 := narrow sought List.mem_cons_self
      have others := inductionHypothesis fun other member => narrow other (.tail _ member)
      rcases head_encode chars with ⟨char, rest, rfl, first, encoded⟩ | high
      · rw [encoded, ascii, List.map_cons, List.isPrefixOf_cons_cons, List.isPrefixOf_cons_cons,
          toUInt8_beq soughtNarrow first, ← others]
        rfl
      · -- The first byte of the text is not of ASCII, so neither starts with the needle.
        have apart : ∀ byte ∈ (encode chars).head?, byte ≠ sought.toUInt8 := by
          rintro byte first rfl
          have := high _ first
          rw [toNat_toUInt8] at this
          omega
        have noBytes : ¬ (ascii (sought :: needle)).isPrefixOf (encode chars) = true := by
          rw [List.isPrefixOf_iff_prefix]
          rintro ⟨rest, same⟩
          exact apart sought.toUInt8 (by rw [← same]; rfl) rfl
        have noChars : ¬ (sought :: needle).isPrefixOf chars = true := by
          rw [List.isPrefixOf_iff_prefix]
          rintro ⟨rest, rfl⟩
          exact apart sought.toUInt8 (by simp [encode_narrow soughtNarrow]) rfl
        rw [Bool.eq_false_iff.mpr noBytes, Bool.eq_false_iff.mpr noChars]

theorem utf8Len_eq_byteLength (chars : List Char) : String.utf8Len chars = byteLength chars := by
  induction chars with
  | nil => rfl
  | cons char rest inductionHypothesis =>
      rw [String.utf8Len_cons, inductionHypothesis, byteLength_cons, Nat.add_comm]

theorem utf8ByteSize_ofList (chars : List Char) :
    (String.ofList chars).utf8ByteSize = byteLength chars := by
  rw [String.utf8ByteSize_ofList, utf8Len_eq_byteLength]

/-- The end of a leading part of a text is a boundary of characters. -/
theorem isValid_append (front back : List Char) :
    String.Pos.Raw.IsValid (String.ofList (front ++ back)) ⟨byteLength front⟩ := by
  rw [String.Pos.Raw.isValid_iff_exists_append]
  refine ⟨String.ofList front, String.ofList back, String.ofList_append, ?_⟩
  rw [String.rawEndPos, utf8ByteSize_ofList]

theorem extract_append (front part back : List Char) :
    String.Pos.Raw.extract (String.ofList (front ++ part ++ back)) ⟨byteLength front⟩
      ⟨byteLength front + byteLength part⟩ = String.ofList part := by
  rw [← utf8Len_eq_byteLength, ← utf8Len_eq_byteLength]
  exact String.extract_of_valid front part back

/-- A part of a text is the slice between its ends. -/
theorem slice?_eq {chars front part back : List Char} {start stop : Nat}
    (whole : chars = front ++ part ++ back) (starts : start = byteLength front)
    (stops : stop = byteLength front + byteLength part) :
    slice? (String.ofList chars) start stop = some (String.ofList part) := by
  subst whole starts stops
  have start : String.Pos.Raw.IsValid (String.ofList (front ++ part ++ back)) ⟨byteLength front⟩ := by
    rw [List.append_assoc]
    exact isValid_append front (part ++ back)
  have stop : String.Pos.Raw.IsValid (String.ofList (front ++ part ++ back))
      ⟨byteLength front + byteLength part⟩ := by
    rw [← byteLength_append]
    exact isValid_append (front ++ part) back
  rw [slice?, if_pos ⟨Nat.le_add_right _ _, start, stop⟩, extract_append]

theorem takeBytes_zero (text : List Char) : takeBytes 0 text = [] := by
  cases text with
  | nil => rfl
  | cons char rest =>
      have positive := char.utf8Size_pos
      rw [takeBytes, if_neg (by omega)]

theorem takeBytes_append (first second : List Char) (extra : Nat) :
    takeBytes (byteLength first + extra) (first ++ second) = first ++ takeBytes extra second := by
  induction first with
  | nil => rw [byteLength_nil, Nat.zero_add, List.nil_append, List.nil_append]
  | cons char rest inductionHypothesis =>
      have remaining : char.utf8Size + byteLength rest + extra - char.utf8Size =
          byteLength rest + extra := by omega
      rw [List.cons_append, takeBytes, byteLength_cons, if_pos (by omega), remaining,
        inductionHypothesis, List.cons_append]

/-- At every byte of a text of ASCII there is a boundary of characters. -/
theorem isValid_narrow {chars : List Char} (narrow : ∀ char ∈ chars, char.toNat < 128) {position : Nat}
    (inside : position ≤ byteLength chars) :
    String.Pos.Raw.IsValid (String.ofList chars) ⟨position⟩ := by
  have kept : ∀ char ∈ chars.take position, char.toNat < 128 := fun char member =>
    narrow char (List.mem_of_mem_take member)
  have front : byteLength (chars.take position) = position := by
    rw [byteLength_narrow kept, List.length_take_of_le]
    rwa [← byteLength_narrow narrow]
  have valid := isValid_append (chars.take position) (chars.drop position)
  rwa [List.take_append_drop, front] at valid

/-- A slice from the start of a text to a boundary of characters is the longest part that fits. -/
theorem slice?_start {chars : List Char} {stop : Nat}
    (valid : String.Pos.Raw.IsValid (String.ofList chars) ⟨stop⟩) :
    slice? (String.ofList chars) 0 stop = some (String.ofList (takeBytes stop chars)) := by
  obtain ⟨front, back, whole, ends⟩ := String.Pos.Raw.isValid_iff_exists_append.mp valid
  have parts : chars = [] ++ front.toList ++ back.toList := by
    rw [List.nil_append, ← String.toList_append, ← whole, String.toList_ofList]
  have bytes : stop = byteLength [] + byteLength front.toList := by
    rw [byteLength_nil, Nat.zero_add, ← utf8ByteSize_ofList, String.ofList_toList]
    exact congrArg String.Pos.Raw.byteIdx ends
  have fits : takeBytes stop chars = front.toList := by
    rw [parts, bytes, byteLength_nil, List.nil_append, Nat.add_comm, takeBytes_append, takeBytes_zero,
      List.append_nil]
  rw [fits]
  exact slice?_eq parts byteLength_nil.symm bytes

theorem isValid_of_slice? {text part : String} {start stop : Nat}
    (slice : slice? text start stop = some part) : String.Pos.Raw.IsValid text ⟨stop⟩ := by
  unfold slice? at slice
  split at slice
  · rename_i bounds
    exact bounds.2.2
  · cases slice

end BindPlan.Text
