import BindPlan.Json.Numeral
import BindPlan.Number.Shortest

/-!
Numbers in JSON texts. A numeral without a point and an exponent is a whole number if it fits in 64
bits. Any other numeral is rounded: its digits are collected for as long as they fit in 64 bits, and
what they make up is scaled by powers of ten, each step being rounded.
-/

namespace BindPlan.Json

inductive Number where
  | whole (integer : Int)
  | rounded (number : Binary64)
deriving DecidableEq, Repr

namespace Numeral

def digitValue (digit : Char) : Nat := digit.toNat - '0'.toNat

def digitsValue (digits : List Char) : Nat :=
  digits.foldl (fun value digit => 10 * value + digitValue digit) 0

/-- The largest significand that digits are collected in. -/
def maxSignificand : Nat := UInt64.size - 1

/-- The significand with further digits, up to the first that does not fit, and the digits that are
left out. -/
def collect (significand : Nat) : List Char → Nat × List Char
  | [] => (significand, [])
  | digit :: rest =>
      let next := 10 * significand + digitValue digit
      if next ≤ maxSignificand then collect next rest else (significand, digit :: rest)

/-- The largest power of ten among the numbers. -/
def maxPower : Nat := 308

def powerOfTen (places : Nat) : Binary64 := .nearest false (tenTo places) 1

/-- The number divided by a power of ten, in steps that are powers among the numbers. -/
def scaleDown (number : Binary64) (places : Nat) : Binary64 :=
  if places ≤ maxPower then number.dividedBy (powerOfTen places)
  else if number.units = 0 then number
  else scaleDown (number.dividedBy (powerOfTen maxPower)) (places - maxPower)
termination_by places
decreasing_by simp only [maxPower] at *; omega

/-- The number multiplied by a power of ten. An infinite product is refused. -/
def scaleUp? (number : Binary64) (places : Nat) : Option Binary64 :=
  if number.units = 0 then some number
  else if places ≤ maxPower then
    let scaled := number.times (powerOfTen places)
    if scaled.isInfinite then none else some scaled
  else none

/-- The significand times a power of ten. -/
def scaled? (significand : Nat) (exponent : Int) : Option Binary64 :=
  let number := Binary64.nearest false significand 1
  if exponent < 0 then some (scaleDown number exponent.natAbs)
  else scaleUp? number exponent.natAbs

def exponentValue (numeral : Numeral) : Int :=
  match numeral.exponent with
  | none => 0
  | some (negative, digits) => if negative then -digitsValue digits else digitsValue digits

/-- The rounded value of a numeral, if it is finite. -/
def rounded? (numeral : Numeral) : Option Binary64 :=
  let (whole, skipped) := collect 0 numeral.whole
  let (significand, ignored) := collect whole numeral.fraction
  let places : Int := (numeral.fraction.length - ignored.length : Nat)
  let magnitude := scaled? significand (numeral.exponentValue + skipped.length - places)
  if numeral.negative then magnitude.map Binary64.negate else magnitude

/-- The integer that a numeral without a point and an exponent stands for. Zero with a sign is not
an integer, since its sign would be lost. -/
def integer? (numeral : Numeral) : Option Int :=
  let magnitude := digitsValue numeral.whole
  if numeral.fraction.isEmpty && numeral.exponent.isNone then
    if !numeral.negative then
      if magnitude ≤ maxSignificand then some magnitude else none
    else if 1 ≤ magnitude ∧ magnitude ≤ Int64.size / 2 then some (-magnitude)
    else none
  else none

/-- The number that a numeral stands for, if there is a finite one. -/
def number? (numeral : Numeral) : Option Number :=
  match numeral.integer? with
  | some integer => some (.whole integer)
  | none => numeral.rounded?.map .rounded

end Numeral

namespace Number

/-- Rounded numbers are positional from 10^-5 up to 10^16, and beyond that the exponent has a sign
always. A tie between two decimals goes to the even digit. -/
def layout : NumberLayout where
  positionalFrom := -5
  positionalBelow := 16
  exponentSign := ['+']
  tie := .toEven
  notANumber := "NaN"
  infinity := "inf"

def text : Number → String
  | whole integer => toString integer
  | rounded number => layout.render number

end Number

end BindPlan.Json
