namespace BindPlan.Json

/-- The text of a number, divided into its parts. -/
structure Numeral where
  negative : Bool
  /-- The digits in front of the point. -/
  whole : List Char
  /-- The digits behind the point. There is no point without a digit behind it. -/
  fraction : List Char
  /-- The exponent has a sign and digits. -/
  exponent : Option (Bool × List Char)
deriving DecidableEq, Repr

namespace Numeral

/-- The digits behind a point, if there is a point, and what stands behind them. -/
def fractionDigits : List Char → Option (List Char × List Char)
  | '.' :: rest =>
      let digits := rest.takeWhile Char.isDigit
      if digits.isEmpty then none else some (digits, rest.dropWhile Char.isDigit)
  | text => some ([], text)

/-- The sign of an exponent, and what stands behind it. -/
def exponentSign : List Char → Bool × List Char
  | '-' :: rest => (true, rest)
  | '+' :: rest => (false, rest)
  | text => (false, text)

/-- The sign and the digits of an exponent, if there is one, and what stands behind them. -/
def exponentDigits : List Char → Option (Option (Bool × List Char) × List Char)
  | [] => some (none, [])
  | char :: rest =>
      if char == 'e' || char == 'E' then
        let unsigned := (exponentSign rest).2
        let digits := unsigned.takeWhile Char.isDigit
        if digits.isEmpty then none
        else some (some ((exponentSign rest).1, digits), unsigned.dropWhile Char.isDigit)
      else some (none, char :: rest)

/-- The numeral behind a sign, and what stands behind it. Its whole part is zero or does not start
with a zero. -/
def read (negative : Bool) (text : List Char) : Option (Numeral × List Char) :=
  let whole := text.takeWhile Char.isDigit
  if whole.isEmpty || whole.head? == some '0' && whole.length != 1 then none
  else do
    let (fraction, behind) ← fractionDigits (text.dropWhile Char.isDigit)
    let (exponent, behind) ← exponentDigits behind
    return (⟨negative, whole, fraction, exponent⟩, behind)

theorem length_dropWhile_le (text : List Char) :
    (text.dropWhile Char.isDigit).length ≤ text.length :=
  (List.dropWhile_suffix Char.isDigit).length_le

theorem length_fractionDigits {text rest digits : List Char}
    (reads : fractionDigits text = some (digits, rest)) : rest.length ≤ text.length := by
  unfold fractionDigits at reads
  split at reads
  · simp only at reads
    split at reads
    · cases reads
    · cases reads
      have := length_dropWhile_le ‹_›
      simp only [List.length_cons]
      omega
  · cases reads
    exact Nat.le_refl _

theorem length_exponentSign (text : List Char) : (exponentSign text).2.length ≤ text.length := by
  unfold exponentSign
  split <;> simp

theorem length_exponentDigits {text rest : List Char} {exponent : Option (Bool × List Char)}
    (reads : exponentDigits text = some (exponent, rest)) : rest.length ≤ text.length := by
  unfold exponentDigits at reads
  split at reads
  · cases reads
    exact Nat.le_refl _
  · rename_i char behind
    split at reads
    · simp only at reads
      split at reads
      · cases reads
      · cases reads
        have := length_dropWhile_le (exponentSign behind).2
        have := length_exponentSign behind
        simp only [List.length_cons]
        omega
    · cases reads
      exact Nat.le_refl _

/-- A numeral takes at least one digit of the text. -/
theorem length_lt_of_read {negative : Bool} {text rest : List Char} {numeral : Numeral}
    (reads : read negative text = some (numeral, rest)) : rest.length < text.length := by
  unfold read at reads
  simp only at reads
  split at reads
  · cases reads
  · rename_i filled
    simp only [Option.bind_eq_bind, Option.bind_eq_some_iff, Option.pure_def] at reads
    obtain ⟨⟨fraction, behind⟩, first, ⟨exponent, last⟩, second, done⟩ := reads
    cases done
    dsimp only at second ⊢
    have := length_fractionDigits first
    have := length_exponentDigits second
    have whole := congrArg List.length
      (List.takeWhile_append_dropWhile (p := Char.isDigit) (l := text))
    have : 0 < (text.takeWhile Char.isDigit).length := by
      apply List.length_pos_iff.mpr
      intro empty
      simp [empty] at filled
    rw [List.length_append] at whole
    omega

end Numeral

end BindPlan.Json
