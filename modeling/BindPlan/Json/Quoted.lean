namespace BindPlan.Json.Quoted

/-- A part of a quoted text. -/
inductive Piece where
  | char (char : Char)
  /-- A unit of UTF-16 that is written by its number. -/
  | unit (code : Nat)
deriving DecidableEq, Repr

def hexDigit? (char : Char) : Option Nat :=
  if char.isDigit then some (char.toNat - '0'.toNat)
  else if 'a' ≤ char ∧ char ≤ 'f' then some (char.toNat - 'a'.toNat + 10)
  else if 'A' ≤ char ∧ char ≤ 'F' then some (char.toNat - 'A'.toNat + 10)
  else none

/-- The number that hexadecimal digits stand for. -/
def hexValue? (digits : List Char) : Option Nat :=
  digits.foldlM (fun value digit => (16 * value + ·) <$> hexDigit? digit) 0

/-- The character that is written as a backslash and another character. -/
def shortEscape? : Char → Option Char
  | '"' => some '"'
  | '\\' => some '\\'
  | '/' => some '/'
  | 'b' => some '\x08'
  | 'f' => some '\x0c'
  | 'n' => some '\n'
  | 'r' => some '\r'
  | 't' => some '\t'
  | _ => none

/-- The piece that a text starts with, and what stands behind it. A control character and a quote
are no pieces. -/
def piece? : List Char → Option (Piece × List Char)
  | '\\' :: 'u' :: first :: second :: third :: fourth :: rest =>
      (hexValue? [first, second, third, fourth]).map fun code => (.unit code, rest)
  | '\\' :: escape :: rest => (shortEscape? escape).map fun char => (.char char, rest)
  | '\\' :: [] => none
  | '"' :: _ => none
  | char :: rest => if char < ' ' then none else some (.char char, rest)
  | [] => none

theorem length_lt_of_piece? {text rest : List Char} {piece : Piece}
    (reads : piece? text = some (piece, rest)) : rest.length < text.length := by
  unfold piece? at reads
  split at reads
  · obtain ⟨code, _, same⟩ := Option.map_eq_some_iff.mp reads
    cases same
    simp only [List.length_cons]
    omega
  · obtain ⟨char, _, same⟩ := Option.map_eq_some_iff.mp reads
    cases same
    simp only [List.length_cons]
    omega
  · cases reads
  · cases reads
  · split at reads
    · cases reads
    · cases reads
      simp
  · cases reads

/-- What stands behind a closing quote. -/
def closed? : List Char → Option (List Char)
  | '"' :: rest => some rest
  | _ => none

/-- The pieces of a text up to its closing quote, and what stands behind the quote. -/
def pieces (text : List Char) : Option (List Piece × List Char) :=
  match reads : piece? text with
  | none => (closed? text).map fun rest => ([], rest)
  | some (piece, behind) =>
      have := length_lt_of_piece? reads
      (pieces behind).map fun following => (piece :: following.1, following.2)
termination_by text.length

theorem length_lt_of_closed? {text rest : List Char}
    (closes : closed? text = some rest) : rest.length < text.length := by
  unfold closed? at closes
  split at closes
  · cases closes
    simp
  · cases closes

theorem length_lt_of_pieces {text rest : List Char} {found : List Piece}
    (reads : pieces text = some (found, rest)) : rest.length < text.length := by
  fun_induction pieces text generalizing found with
  | case1 text =>
      obtain ⟨behind, closes, same⟩ := Option.map_eq_some_iff.mp reads
      cases same
      exact length_lt_of_closed? closes
  | case2 text piece behind first shorter inductionHypothesis =>
      obtain ⟨⟨following, last⟩, second, same⟩ := Option.map_eq_some_iff.mp reads
      cases same
      have := inductionHypothesis second
      omega

def isLeading (code : Nat) : Bool := 0xD800 ≤ code && code < 0xDC00

def isTrailing (code : Nat) : Bool := 0xDC00 ≤ code && code < 0xE000

/-- The character that a leading and a trailing surrogate make up. -/
def ofSurrogates (leading trailing : Nat) : Char :=
  Char.ofNat (0x10000 + 1024 * (leading - 0xD800) + (trailing - 0xDC00))

/-- The characters that pieces stand for. A leading surrogate needs a trailing one right behind it,
and no trailing surrogate stands anywhere else. -/
def decode : List Piece → Option (List Char)
  | [] => some []
  | .char char :: rest => (char :: ·) <$> decode rest
  | .unit code :: rest =>
      if isTrailing code then none
      else if isLeading code then
        match rest with
        | .unit trailing :: rest =>
            if isTrailing trailing then (ofSurrogates code trailing :: ·) <$> decode rest
            else none
        | _ => none
      else (Char.ofNat code :: ·) <$> decode rest

/-- The two digits of a byte in lower-case hexadecimal. -/
def hexByte (byte : Nat) : List Char := [Nat.digitChar (byte / 16), Nat.digitChar (byte % 16)]

/-- The way one character is written inside double quotes. -/
def escape (char : Char) : List Char :=
  match char with
  | '"' => ['\\', '"']
  | '\\' => ['\\', '\\']
  | '\x08' => ['\\', 'b']
  | '\x0c' => ['\\', 'f']
  | '\n' => ['\\', 'n']
  | '\r' => ['\\', 'r']
  | '\t' => ['\\', 't']
  | _ => if char < ' ' then ['\\', 'u', '0', '0'] ++ hexByte char.toNat else [char]

/-- The text in double quotes. -/
def encode (text : String) : String :=
  String.ofList ('"' :: text.toList.flatMap escape ++ ['"'])

end BindPlan.Json.Quoted
