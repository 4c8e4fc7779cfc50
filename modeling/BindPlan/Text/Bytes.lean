/-!
Texts measured in the bytes of their UTF-8 form. Positions in statement texts and limits on marker
names count bytes, while the texts themselves are lists of characters.
-/

namespace BindPlan.Text

/-- The number of bytes that a list of characters takes in UTF-8. -/
def byteLength : List Char → Nat
  | [] => 0
  | char :: rest => char.utf8Size + byteLength rest

@[simp] theorem byteLength_nil : byteLength [] = 0 := rfl

@[simp] theorem byteLength_cons (char : Char) (rest : List Char) :
    byteLength (char :: rest) = char.utf8Size + byteLength rest := rfl

@[simp] theorem byteLength_append (first second : List Char) :
    byteLength (first ++ second) = byteLength first + byteLength second := by
  induction first with
  | nil => simp
  | cons char rest inductionHypothesis =>
      simp only [List.cons_append, byteLength_cons, inductionHypothesis]
      omega

/-- The bytes of a text in UTF-8. -/
def utf8 (text : String) : List UInt8 := text.toByteArray.data.toList

/-- The bytes of characters of ASCII. -/
def ascii (chars : List Char) : List UInt8 := chars.map Char.toUInt8

/-- The text between two byte positions. It exists where the positions are in order and both are
boundaries of characters. -/
def slice? (text : String) (start stop : Nat) : Option String :=
  if start ≤ stop ∧ String.Pos.Raw.IsValid text ⟨start⟩ ∧ String.Pos.Raw.IsValid text ⟨stop⟩ then
    some (String.Pos.Raw.extract text ⟨start⟩ ⟨stop⟩)
  else none

/-- The longest leading part that takes at most `limit` bytes. -/
def takeBytes (limit : Nat) : List Char → List Char
  | [] => []
  | char :: rest =>
      if char.utf8Size ≤ limit then char :: takeBytes (limit - char.utf8Size) rest else []

theorem byteLength_takeBytes_le (limit : Nat) (text : List Char) :
    byteLength (takeBytes limit text) ≤ limit := by
  induction text generalizing limit with
  | nil => simp [takeBytes]
  | cons char rest inductionHypothesis =>
      unfold takeBytes
      split
      · have := inductionHypothesis (limit - char.utf8Size)
        rw [byteLength_cons]
        omega
      · simp

end BindPlan.Text
