import BindPlan.Template.Basic

/-!
Reading of a text by the positions of its bytes. A cursor walks over the bytes and keeps the position
up to which the text is copied and the number of backslashes that were left out. Names and copied
text are slices of the text, which exist only between boundaries of characters.
-/

namespace BindPlan.Template

namespace NameForm

/-- The number of bytes in front of a name. -/
def lead : NameForm → Nat
  | colon | ampersand => 1
  | braces => 2

/-- The number of bytes behind a name that still belong to its parameter. -/
def trail : NameForm → Nat
  | colon | ampersand => 0
  | braces => 1

end NameForm

namespace Region

def all : List Region := [singleQuoted, doubleQuoted, lineComment, blockComment]

/-- The number of bytes through the first needle, or of all bytes if there is none. -/
def lengthThrough (needle : List UInt8) : List UInt8 → Nat
  | [] => 0
  | byte :: rest =>
      if needle.isPrefixOf (byte :: rest) then needle.length else lengthThrough needle rest + 1

/-- The length of the region that the bytes open. -/
def length? (bytes : List UInt8) : Option Nat :=
  (all.find? fun kind => (Text.ascii kind.opener).isPrefixOf bytes).map fun kind =>
    kind.opener.length + lengthThrough (Text.ascii kind.closer) (bytes.drop kind.opener.length)

end Region

/-- What stands at a position: bytes to pass over, an escaped colon, or a parameter with the number of
bytes of its name. -/
inductive Stride where
  | pass (length : Nat)
  | escape
  | name (form : NameForm) (length : Nat)
deriving DecidableEq, Repr

namespace Stride

/-- The number of bytes to the next position. -/
def length : Stride → Nat
  | pass length => length
  | escape => 2
  | name form length => form.lead + length + form.trail

/-- The stride behind a sign. A sign without a name is passed over. -/
def named (form : NameForm) (bytes : List UInt8) : Stride :=
  let run := bytes.takeWhile fun byte => !Token.isSeparator (.ofUInt8 byte)
  if run.isEmpty then .pass 1 else .name form run.length

/-- The stride behind a colon and an opening brace. -/
def braced (bytes : List UInt8) : Except TemplateFault Stride :=
  let run := bytes.takeWhile fun byte => !Token.endsBracedName (.ofUInt8 byte)
  match bytes.drop run.length with
  | [] => .error .unterminatedName
  | byte :: _ =>
      if Char.ofUInt8 byte = '\x7d' then .ok (if run.isEmpty then .pass 3 else .name .braces run.length)
      else .error (.forbiddenInName (.ofUInt8 byte))

/-- The stride at a byte in front of further bytes. -/
def next (byte : UInt8) (bytes : List UInt8) : Except TemplateFault Stride :=
  match Region.length? (byte :: bytes) with
  | some length => .ok (.pass length)
  | none =>
      match Char.ofUInt8 byte, bytes.head?.map Char.ofUInt8 with
      | ':', some ':' => .ok (.pass 2)
      | ':', some '\x7b' => braced bytes.tail
      | ':', _ => .ok (named .colon bytes)
      | '&', _ => .ok (named .ampersand bytes)
      | '\\', some ':' => .ok .escape
      | _, _ => .ok (.pass 1)

theorem length_pos_of_next {byte : UInt8} {bytes : List UInt8} {stride : Stride}
    (reads : next byte bytes = .ok stride) : 0 < stride.length := by
  have named_pos (form : NameForm) (bytes : List UInt8) : 0 < (named form bytes).length := by
    unfold named
    dsimp only
    split
    · exact Nat.one_pos
    · cases form <;> simp only [length, NameForm.lead, NameForm.trail] <;> omega
  unfold next at reads
  split at reads
  · rename_i passed opens
    cases reads
    obtain ⟨kind, _, rfl⟩ := Option.map_eq_some_iff.mp opens
    cases kind <;> simp only [length, Region.opener, List.length_cons] <;> omega
  · split at reads
    · cases reads; decide
    · unfold braced at reads
      simp only at reads
      split at reads
      · cases reads
      · split at reads
        · cases reads
          split <;> simp only [length, NameForm.lead, NameForm.trail] <;> omega
        · cases reads
    · cases reads; exact named_pos _ _
    · cases reads; exact named_pos _ _
    · cases reads; decide
    · cases reads; decide

end Stride

/-- A position in a text with what was made of the text before it. -/
structure Cursor where
  position : Nat
  /-- The text before this position is copied. -/
  copied : Nat
  /-- The number of backslashes that were left out. -/
  escapes : Nat
  rewritten : String
  occurrences : List Occurrence
deriving DecidableEq, Repr

namespace Cursor

def start : Cursor := ⟨0, 0, 0, "", []⟩

/-- The cursor behind a stride. The positions of an occurrence refer to the rewritten text. -/
def advance (text : String) (cursor : Cursor) : Stride → Option Cursor
  | .pass length => some { cursor with position := cursor.position + length }
  | .escape => do
      let copied ← Text.slice? text cursor.copied cursor.position
      return { cursor with
        position := cursor.position + 2
        copied := cursor.position + 1
        escapes := cursor.escapes + 1
        rewritten := cursor.rewritten ++ copied }
  | .name form length => do
      let start := cursor.position + form.lead
      let name ← Text.slice? text start (start + length)
      let stop := start + length + form.trail
      let occurrence : Occurrence := ⟨name, cursor.position - cursor.escapes, stop - cursor.escapes⟩
      return { cursor with position := stop, occurrences := cursor.occurrences ++ [occurrence] }

/-- The cursor at the end of the text, of which the given bytes are ahead. There is none if a slice
does not exist. -/
def run (text : String) (cursor : Cursor) : List UInt8 → Option (Except Error Cursor)
  | [] => do
      let rest ← Text.slice? text cursor.copied text.utf8ByteSize
      return .ok { cursor with
        copied := text.utf8ByteSize
        rewritten := cursor.rewritten ++ rest }
  | byte :: bytes =>
      match reads : Stride.next byte bytes with
      | .error fault => some (.error (.malformedTemplate fault cursor.position))
      | .ok stride => do
          have := Stride.length_pos_of_next reads
          run text (← cursor.advance text stride) ((byte :: bytes).drop stride.length)
termination_by bytes => bytes.length
decreasing_by simp only [List.length_drop, List.length_cons]; omega

/-- The rewritten text with its occurrences. -/
def read (text : String) : Option (Except Error (String × List Occurrence)) :=
  (run text start (Text.utf8 text)).map fun outcome =>
    outcome.map fun cursor => (cursor.rewritten, cursor.occurrences)

end Cursor

end BindPlan.Template
