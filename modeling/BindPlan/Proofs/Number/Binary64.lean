import BindPlan.Number.Binary64
import Mathlib.Algebra.Order.Ring.Int
import Mathlib.Tactic.NthRewrite
import Mathlib.Tactic.SplitIfs

namespace BindPlan

theorem twoTo_pos (exponent : Nat) : 0 < twoTo exponent := Nat.two_pow_pos exponent

theorem twoTo_add (first second : Nat) : twoTo (first + second) = twoTo first * twoTo second :=
  Nat.pow_add 2 first second

theorem twoTo_dvd {first second : Nat} (least : first ≤ second) : twoTo first ∣ twoTo second :=
  Nat.pow_dvd_pow 2 least

namespace Binary64

/-- The integer has at most 53 significant bits. -/
def Significant (integer : Int) : Prop :=
  ∃ significand exponent, significand < twoTo 53 ∧ integer.natAbs = significand * twoTo exponent

/-- The number is finite, and it is the integer. -/
def Holds (number : Binary64) (integer : Int) : Prop :=
  number.exponentField ≠ 2047 ∧
    (if number.isNegative then -(number.units : Int) else number.units) = integer * twoTo 1074

instance (number : Binary64) (integer : Int) : Decidable (number.Holds integer) :=
  inferInstanceAs (Decidable (_ ∧ _))

/-- A number holds one integer at most. -/
theorem Holds.unique {number : Binary64} {first second : Int} (one : number.Holds first)
    (other : number.Holds second) : first = second := by
  have same : first * twoTo 1074 = second * twoTo 1074 := one.2.symm.trans other.2
  exact Int.eq_of_mul_eq_mul_right (by exact_mod_cast (twoTo_pos 1074).ne') same

theorem roundQuotient_bounds (numerator denominator : Nat) :
    numerator / denominator ≤ roundQuotient numerator denominator ∧
      roundQuotient numerator denominator ≤ numerator / denominator + 1 := by
  simp only [roundQuotient]
  split_ifs <;> omega

/-- Rounding keeps a quotient where the division leaves no remainder, and only there. -/
theorem roundQuotient_mul_eq_iff {numerator denominator : Nat} (positive : 0 < denominator) :
    roundQuotient numerator denominator * denominator = numerator ↔ denominator ∣ numerator := by
  constructor
  · intro same
    exact ⟨_, same.symm.trans (Nat.mul_comm _ _)⟩
  · intro divides
    have remainder : numerator % denominator = 0 := Nat.mod_eq_zero_of_dvd divides
    simp only [roundQuotient, remainder]
    rw [if_pos (by omega)]
    exact Nat.div_mul_cancel divides

/-- All bits of the integer below its leading 53 are zero. -/
theorem significant_iff (integer : Int) :
    Significant integer ↔ twoTo (integer.natAbs.log2 - 52) ∣ integer.natAbs := by
  constructor
  · rintro ⟨significand, exponent, small, magnitude⟩
    rcases Nat.eq_zero_or_pos integer.natAbs with zero | positive
    · rw [zero]
      exact Nat.dvd_zero _
    · have below : integer.natAbs < 2 ^ (53 + exponent) := by
        rw [magnitude, Nat.pow_add]
        exact Nat.mul_lt_mul_of_pos_right small (twoTo_pos exponent)
      have leading : integer.natAbs.log2 < 53 + exponent := (Nat.log2_lt positive.ne').mpr below
      have shifted : twoTo exponent ∣ integer.natAbs :=
        ⟨significand, magnitude.trans (Nat.mul_comm _ _)⟩
      exact (twoTo_dvd (by omega)).trans shifted
  · rintro ⟨significand, magnitude⟩
    refine ⟨significand, integer.natAbs.log2 - 52, ?_, magnitude.trans (Nat.mul_comm _ _)⟩
    have below : integer.natAbs < twoTo (integer.natAbs.log2 - 52) * twoTo 53 := by
      rw [← twoTo_add]
      exact Nat.lt_of_lt_of_le Nat.lt_log2_self (Nat.pow_le_pow_right (by decide) (by omega))
    nth_rewrite 1 [magnitude] at below
    exact Nat.lt_of_mul_lt_mul_left below

/-- A significand of 53 bits that is rounded up to the next power of two carries into the exponent field,
and the number is the same. -/
theorem fields_of_bits {number : Binary64} {negative : Bool} {shift significand : Nat}
    (bits : number.bits.toNat = signBit negative + (shift * twoTo 52 + significand))
    (low : twoTo 52 ≤ significand) (high : significand ≤ twoTo 53) (small : shift ≤ 1085) :
    number.isNegative = negative ∧ number.exponentField ≠ 2047 ∧
      number.units = significand * twoTo shift := by
  have unit : twoTo 52 = 4503599627370496 := rfl
  have double : twoTo 53 = 9007199254740992 := rfl
  have sign : twoTo 63 = 9223372036854775808 := rfl
  rw [signBit, unit, sign] at bits
  rw [unit] at low
  rw [double] at high
  have field : number.exponentField = shift + significand / 4503599627370496 := by
    rw [exponentField, bits, unit]
    split_ifs <;> omega
  have fraction : number.fractionField = significand % 4503599627370496 := by
    rw [fractionField, bits, unit]
    split_ifs <;> omega
  refine ⟨?_, by omega, ?_⟩
  · rw [isNegative, bits, sign]
    cases negative with
    | true => simp
    | false => simp; omega
  · rw [units, Binary64.significand, Binary64.shift, field, fraction, if_neg (by omega), unit]
    -- The leading bit stands in the exponent field, and it stands one place higher after a carry.
    rcases Nat.lt_or_eq_of_le high with below | carried
    · have lead : significand / 4503599627370496 = 1 := by omega
      have rest : 4503599627370496 + significand % 4503599627370496 = significand := by omega
      rw [lead, rest, Nat.add_sub_cancel]
    · subst carried
      have next : twoTo (shift + 1) = twoTo shift * 2 := twoTo_add shift 1
      change 4503599627370496 * twoTo (shift + 1) = 9007199254740992 * twoTo shift
      omega

theorem log2_shifted {number : Nat} (nonzero : number ≠ 0) (exponent : Nat) :
    (number * twoTo exponent).log2 = number.log2 + exponent := by
  have positive := twoTo_pos exponent
  rw [Nat.log2_eq_iff (Nat.mul_ne_zero nonzero positive.ne'), Nat.add_right_comm, Nat.pow_add, Nat.pow_add]
  exact ⟨Nat.mul_le_mul_right _ (Nat.log2_self_le nonzero),
    Nat.mul_lt_mul_of_pos_right Nat.lt_log2_self positive⟩

/-- The quotient that is rounded has 53 bits. -/
theorem quotient_bounds {units shift : Nat} (nonzero : units ≠ 0) (leading : units.log2 = 52 + shift) :
    twoTo 52 ≤ units / twoTo shift ∧ units / twoTo shift < twoTo 53 := by
  have least := Nat.log2_self_le nonzero
  have most := Nat.lt_log2_self (n := units)
  rw [leading] at least most
  constructor
  · rw [Nat.le_div_iff_mul_le (twoTo_pos shift), ← twoTo_add]
    exact least
  · rw [Nat.div_lt_iff_lt_mul (twoTo_pos shift), ← twoTo_add, Nat.add_right_comm 52 1 shift]
    exact most

/-- A magnitude is rounded to a significand of 53 bits. -/
theorem nearestMagnitude_eq {magnitude : Nat} (nonzero : magnitude ≠ 0) (small : magnitude < twoTo 64) :
    ∃ significand,
      significand = roundQuotient (magnitude * twoTo 1074) (twoTo (magnitude.log2 + 1022)) ∧
      twoTo 52 ≤ significand ∧ significand ≤ twoTo 53 ∧
      nearestMagnitude magnitude 1 = (magnitude.log2 + 1022) * twoTo 52 + significand := by
  have leading := log2_shifted nonzero 1074
  have units : magnitude * twoTo 1074 ≠ 0 := Nat.mul_ne_zero nonzero (twoTo_pos 1074).ne'
  have quotient := quotient_bounds units (leading.trans (Nat.add_left_comm 52 _ 1022).symm)
  have rounded := roundQuotient_bounds (magnitude * twoTo 1074) (twoTo (magnitude.log2 + 1022))
  have low := quotient.1.trans rounded.1
  have high := rounded.2.trans quotient.2
  refine ⟨_, rfl, low, high, ?_⟩
  have shift : (magnitude * twoTo 1074).log2 - 52 = magnitude.log2 + 1022 := by
    rw [leading]
    rfl
  have finite : (magnitude.log2 + 1022) * twoTo 52 + twoTo 53 ≤ infiniteMagnitude := by
    have bounded : magnitude.log2 < 64 := (Nat.log2_lt nonzero).mpr small
    have carry : twoTo 53 = 2 * twoTo 52 := rfl
    rw [carry, ← Nat.add_mul, infiniteMagnitude]
    exact Nat.mul_le_mul_right _ (by omega)
  rw [nearestMagnitude]
  simp only [Nat.div_one, Nat.one_mul, shift]
  exact Nat.min_eq_right ((Nat.add_le_add_left high _).trans finite)

/-- What a magnitude is divided by leaves no remainder where all bits below the leading 53 are zero. -/
theorem shift_dvd_iff (magnitude : Nat) :
    twoTo (magnitude.log2 + 1022) ∣ magnitude * twoTo 1074 ↔
      twoTo (magnitude.log2 - 52) ∣ magnitude := by
  rcases Nat.le_total 52 magnitude.log2 with wide | narrow
  · have split : magnitude.log2 + 1022 = magnitude.log2 - 52 + 1074 := by omega
    rw [split, twoTo_add]
    exact Nat.mul_dvd_mul_iff_right (twoTo_pos 1074)
  · have least : magnitude.log2 + 1022 ≤ 1074 := Nat.add_le_add_right narrow 1022
    have below : twoTo (magnitude.log2 + 1022) ∣ twoTo 1074 := twoTo_dvd least
    rw [Nat.sub_eq_zero_of_le narrow]
    exact ⟨fun _ => Nat.one_dvd magnitude, fun _ => below.mul_left magnitude⟩

theorem signed_eq_iff (integer : Int) (units scale : Nat) :
    (if decide (integer < 0) then -(units : Int) else units) = integer * scale ↔
      units = integer.natAbs * scale := by
  rcases Int.lt_or_le integer 0 with negative | positive
  · have magnitude : (integer.natAbs * scale : Int) = -(integer * scale) := by
      rw [Int.ofNat_natAbs_of_nonpos negative.le, Int.neg_mul]
    rw [if_pos (decide_eq_true negative)]
    omega
  · have magnitude : (integer.natAbs * scale : Int) = integer * scale := by
      rw [Int.natAbs_of_nonneg positive]
    rw [if_neg (by simpa using positive)]
    omega

/-- No bit of an integer's number is lost above the sign. -/
theorem bits_ofInt {integer : Int} {shift significand : Nat} (small : shift ≤ 1085)
    (high : significand ≤ twoTo 53)
    (magnitude : nearestMagnitude integer.natAbs 1 = shift * twoTo 52 + significand) :
    (ofInt integer).bits.toNat = signBit (integer < 0) + (shift * twoTo 52 + significand) := by
  have unit : twoTo 52 = 4503599627370496 := rfl
  have double : twoTo 53 = 9007199254740992 := rfl
  have size : UInt64.size = 18446744073709551616 := rfl
  have sign : signBit (integer < 0) ≤ 9223372036854775808 := by
    rw [signBit]
    split_ifs <;> decide
  rw [ofInt, nearest, magnitude]
  apply UInt64.toNat_ofNat_of_lt
  rw [double] at high
  rw [size, unit]
  omega

/-- An integer of the machine becomes a number that holds it if it has 53 significant bits at most, and
becomes another number if it has more. -/
theorem ofInt_holds_iff {integer : Int} (small : integer.natAbs < twoTo 64) :
    (ofInt integer).Holds integer ↔ Significant integer := by
  rcases eq_or_ne integer 0 with rfl | nonzero
  · have zero : (ofInt 0).Holds 0 := by decide +kernel
    exact iff_of_true zero ⟨0, 0, twoTo_pos 53, rfl⟩
  have magnitude : integer.natAbs ≠ 0 := Int.natAbs_ne_zero.mpr nonzero
  have bounded : integer.natAbs.log2 < 64 := (Nat.log2_lt magnitude).mpr small
  obtain ⟨significand, rounded, low, high, nearest⟩ := nearestMagnitude_eq magnitude small
  have bits := bits_ofInt (by omega) high nearest
  obtain ⟨sign, finite, units⟩ := fields_of_bits bits low high (by omega)
  have held : (ofInt integer).Holds integer ↔ (ofInt integer).units = integer.natAbs * twoTo 1074 := by
    rw [Holds, sign, signed_eq_iff]
    exact and_iff_right finite
  rw [held, units, rounded, roundQuotient_mul_eq_iff (twoTo_pos _), shift_dvd_iff, significant_iff]

end Binary64

end BindPlan
