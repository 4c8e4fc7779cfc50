import BindPlan.Number.Binary64

/-!
The shortest decimal that reads back as a given number, and its text. The reals that round to a
number form an interval; the decimals of one digit, then two, and so on are tried in it, and the
first grid that has a point there decides the number of digits.
-/

namespace BindPlan

/-- The decimal `digits` · 10^`exponent`. -/
structure Decimal where
  digits : Nat
  exponent : Int
deriving DecidableEq, Repr

/-- The way a tie between two decimals of one length is decided. -/
inductive Tie where
  | toEven
  | up
deriving DecidableEq, Repr

namespace Binary64

def digitCount (number : Nat) : Nat := (Nat.toDigits 10 number).length

/-- The comparison of `left` · 10^`exponent` with `right`. -/
def compareScaled (left : Nat) (exponent : Int) (right : Nat) : Ordering :=
  compare (left * tenTo exponent.toNat) (right * tenTo (-exponent).toNat)

/-- The bounds of the reals that round to a number, in quarters of 2^-1074. Below a power of two
the gap to the lower neighbour is half as wide. -/
def roundingBounds (number : Binary64) : Nat × Nat :=
  let narrow := number.fractionField == 0 && number.exponentField > 1
  let scale := twoTo number.shift
  ((4 * number.significand - if narrow then 1 else 2) * scale, (4 * number.significand + 2) * scale)

/-- A decimal reads back when it lies within the bounds, which count exactly for an even
significand. -/
def readsBack (number : Binary64) (decimal : Decimal) : Bool :=
  let bounds := number.roundingBounds
  let scaled := 4 * decimal.digits * twoTo 1074
  let inclusive := number.significand % 2 == 0
  let low := compareScaled scaled decimal.exponent bounds.1
  let high := compareScaled scaled decimal.exponent bounds.2
  (low == .gt || inclusive && low == .eq) && (high == .lt || inclusive && high == .eq)

/-- The least exponent of ten that exceeds a positive finite number. -/
def decimalMagnitude (number : Binary64) : Int :=
  let estimate : Int := digitCount number.units - digitCount (twoTo 1074)
  if compareScaled (twoTo 1074) estimate number.units == .gt then estimate else estimate + 1

/-- The neighbours of a number on the grid of ten to the `exponent` that read back. -/
def candidates (number : Binary64) (exponent : Int) : List Decimal :=
  let below := number.units * tenTo (-exponent).toNat / (twoTo 1074 * tenTo exponent.toNat)
  [⟨below, exponent⟩, ⟨below + 1, exponent⟩].filter number.readsBack

/-- The choice between two neighbours on one grid: the closer one, or what the tie rule says. -/
def closer (number : Binary64) (tie : Tie) (below above : Decimal) : Decimal :=
  match compareScaled ((below.digits + above.digits) * twoTo 1074) below.exponent
      (2 * number.units) with
  | .lt => above
  | .gt => below
  | .eq =>
      match tie with
      | .up => above
      | .toEven => if below.digits % 2 = 0 then below else above

def shortestOnGrid? (number : Binary64) (tie : Tie) (exponent : Int) : Option Decimal :=
  match number.candidates exponent with
  | [] => none
  | [only] => some only
  | below :: above :: _ => some (number.closer tie below above)

/-- The decimal without its trailing zeros. -/
def dropZeros (count : Nat) (decimal : Decimal) : Decimal :=
  match count with
  | 0 => decimal
  | count + 1 =>
      if decimal.digits % 10 = 0 then
        dropZeros count ⟨decimal.digits / 10, decimal.exponent + 1⟩
      else decimal

/-- The shortest decimal that reads back as a positive finite number. Seventeen digits suffice for
every number, so the search always ends on a grid. -/
def shortest (number : Binary64) (tie : Tie) : Decimal :=
  let magnitude := number.decimalMagnitude
  let found := (List.range 17).findSome? fun index =>
    number.shortestOnGrid? tie (magnitude - (index + 1 : Nat))
  dropZeros 17 (found.getD ⟨number.units, -1074⟩)

end Binary64

/-- The decisions by which a number is laid out as text. -/
structure NumberLayout where
  /-- The least exponent of the leading digit that is written positionally. -/
  positionalFrom : Int
  /-- The first exponent of the leading digit that is written with an exponent again. -/
  positionalBelow : Int
  /-- The sign in front of an exponent that is not negative. -/
  exponentSign : List Char
  tie : Tie
  notANumber : String
  infinity : String

namespace NumberLayout

/-- A positional number has a point and at least one digit on each side of it. -/
def positional (digits : List Char) (leading : Int) : List Char :=
  if leading < 0 then
    '0' :: '.' :: List.replicate (-leading - 1).toNat '0' ++ digits
  else
    let whole := leading.toNat + 1
    let padded := digits ++ List.replicate (whole - digits.length) '0'
    let fraction := digits.drop whole
    padded.take whole ++ '.' :: if fraction.isEmpty then ['0'] else fraction

/-- The exponent behind its mark, with its sign. -/
def exponent (layout : NumberLayout) (leading : Int) : List Char :=
  let sign := if leading < 0 then ['-'] else layout.exponentSign
  'e' :: sign ++ Nat.toDigits 10 leading.natAbs

/-- A number with an exponent has one digit before the point, and a point only if more follow. -/
def scientific (layout : NumberLayout) (digits : List Char) (leading : Int) : List Char :=
  let point := if digits.length ≤ 1 then [] else ['.']
  digits.take 1 ++ point ++ digits.drop 1 ++ layout.exponent leading

def magnitude (layout : NumberLayout) (number : Binary64) : List Char :=
  if number.units = 0 then ['0', '.', '0']
  else
    let decimal := number.shortest layout.tie
    let digits := Nat.toDigits 10 decimal.digits
    let leading := decimal.exponent + (digits.length - 1 : Nat)
    if layout.positionalFrom ≤ leading && leading < layout.positionalBelow then
      positional digits leading
    else layout.scientific digits leading

/-- The text of a number. Zero keeps its sign, and a NaN has none. -/
def render (layout : NumberLayout) (number : Binary64) : String :=
  if number.isNaN then layout.notANumber
  else
    let sign := if number.isNegative then "-" else ""
    if number.isInfinite then sign ++ layout.infinity
    else sign ++ String.ofList (layout.magnitude number)

end NumberLayout

end BindPlan
