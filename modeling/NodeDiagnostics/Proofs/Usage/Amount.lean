import Mathlib.Algebra.Order.Field.Rat
import Mathlib.Tactic.FieldSimp
import NodeDiagnostics.Proofs.Text.Numeral
import NodeDiagnostics.Usage.Quantity

namespace NodeDiagnostics.Usage
open Text

inductive DecimalLetter where
  | nano | micro | milli | kilo | mega | giga | tera | peta | exa
deriving DecidableEq, Repr

namespace DecimalLetter

def char : DecimalLetter → Char
  | nano => 'n'
  | micro => 'u'
  | milli => 'm'
  | kilo => 'k'
  | mega => 'M'
  | giga => 'G'
  | tera => 'T'
  | peta => 'P'
  | exa => 'E'

def power : DecimalLetter → Int
  | nano => -9
  | micro => -6
  | milli => -3
  | kilo => 3
  | mega => 6
  | giga => 9
  | tera => 12
  | peta => 15
  | exa => 18

end DecimalLetter

inductive BinaryLetter where
  | kibi | mebi | gibi | tebi | pebi | exbi
deriving DecidableEq, Repr

namespace BinaryLetter

def char : BinaryLetter → Char
  | kibi => 'K'
  | mebi => 'M'
  | gibi => 'G'
  | tebi => 'T'
  | pebi => 'P'
  | exbi => 'E'

def power : BinaryLetter → Nat
  | kibi => 1
  | mebi => 2
  | gibi => 3
  | tebi => 4
  | pebi => 5
  | exbi => 6

end BinaryLetter

structure Exponent where
  capital : Bool
  sign : Option Sign
  digits : List Digit
  written : digits ≠ []
  least : -0x80000000 ≤ Sign.value sign * placeValue digits
  most : Sign.value sign * placeValue digits ≤ 0x7fffffff

namespace Exponent

def mark (e : Exponent) : Char := if e.capital then 'E' else 'e'

def power (e : Exponent) : Int := Sign.value e.sign * placeValue e.digits

def chars (e : Exponent) : List Char := e.mark :: (Sign.chars e.sign ++ digitChars e.digits)

end Exponent

inductive Suffix where
  | nothing
  | decimal (letter : DecimalLetter)
  | binary (letter : BinaryLetter)
  | exponent (e : Exponent)

namespace Suffix

def chars : Suffix → List Char
  | nothing => []
  | decimal letter => [letter.char]
  | binary letter => [letter.char, 'i']
  | exponent e => e.chars

def factor : Suffix → ℚ
  | nothing => 1
  | decimal letter => 10 ^ letter.power
  | binary letter => 1024 ^ letter.power
  | exponent e => 10 ^ e.power

def multiplier : Suffix → Multiplier
  | nothing => .decimal 0
  | decimal letter => .decimal letter.power
  | binary letter => .binary letter.power
  | exponent e => .decimal e.power

end Suffix

structure Amount where
  sign : Option Sign
  whole : List Digit
  fraction : Option (List Digit)
  suffix : Suffix
  written : whole ++ fraction.getD [] ≠ []

namespace Amount

def decimals (a : Amount) : List Digit := a.fraction.getD []

def pointed : Option (List Digit) → List Char
  | none => []
  | some ds => '.' :: digitChars ds

def number (a : Amount) : List Char :=
  Sign.chars a.sign ++ (digitChars a.whole ++ pointed a.fraction)

def chars (a : Amount) : List Char := a.number ++ a.suffix.chars

def value (a : Amount) : ℚ :=
  Sign.value a.sign * (placeValue a.whole + placeValue a.decimals / 10 ^ a.decimals.length) *
    a.suffix.factor

end Amount

def Word128 (n : Int) : Prop := -2 ^ 127 ≤ n ∧ n < 2 ^ 127

instance (n : Int) : Decidable (Word128 n) := inferInstanceAs (Decidable (_ ∧ _))

theorem word128?_eq (n : Int) : word128? n = if Word128 n then some n else none := rfl

theorem word128_power_iff (k : Nat) : Word128 (10 ^ k) ↔ k ≤ 38 := by
  have grows {i j : Nat} (le : i ≤ j) : (10 : Int) ^ i ≤ 10 ^ j :=
    pow_le_pow_right₀ (by decide) le
  constructor
  · intro word
    by_contra large
    have := word.2
    have := grows (show 39 ≤ k by omega)
    omega
  · intro small
    have := grows small
    have := grows (Nat.zero_le k)
    constructor <;> omega

theorem powerOfTen?_eq (k : Nat) :
    powerOfTen? k = if Word128 (10 ^ k) then some (10 ^ k) else none := by
  simp only [powerOfTen?, word128_power_iff]
  rfl

theorem Word128.of_mul {n factor : Int} (word : Word128 (n * factor)) (positive : 1 ≤ factor) :
    Word128 n := by
  obtain ⟨low, high⟩ := word
  rcases le_total 0 n with above | below
  · have := le_mul_of_one_le_right above positive
    constructor <;> omega
  · have := mul_le_of_one_le_right below positive
    constructor <;> omega

namespace Multiplier

def factor : Multiplier → ℚ
  | binary power => 1024 ^ power
  | decimal exponent => 10 ^ exponent

def tens : Multiplier → Nat
  | binary _ => 0
  | decimal exponent => exponent.natAbs

/-- The multiplied fraction, whatever its size. A factor below one goes into the denominator. -/
def scale (q : Quantity) : Multiplier → Quantity
  | binary power => { q with numerator := q.numerator * 1024 ^ power }
  | decimal exponent =>
    if 0 ≤ exponent then { q with numerator := q.numerator * 10 ^ exponent.natAbs }
    else { q with denominator := q.denominator * 10 ^ exponent.natAbs }

structure Fits (q : Quantity) (m : Multiplier) : Prop where
  power : Word128 (10 ^ m.tens)
  numerator : Word128 (m.scale q).numerator
  denominator : Word128 (m.scale q).denominator

theorem scale?_eq_some_iff {q r : Quantity} (m : Multiplier) (numerator : Word128 q.numerator)
    (denominator : Word128 q.denominator) : m.scale? q = some r ↔ m.Fits q ∧ r = m.scale q := by
  have fits_iff : m.Fits q ↔ Word128 (10 ^ m.tens) ∧ Word128 (m.scale q).numerator ∧
      Word128 (m.scale q).denominator :=
    ⟨fun fits => ⟨fits.power, fits.numerator, fits.denominator⟩, fun ⟨p, n, d⟩ => ⟨p, n, d⟩⟩
  have one : Word128 1 := by decide
  rw [fits_iff]
  cases m with
  | binary power =>
    by_cases fits : Word128 (q.numerator * 1024 ^ power) <;>
      simp [scale?, scale, tens, word128?_eq, fits, one, denominator, eq_comm]
  | decimal exponent =>
    by_cases formed : Word128 (10 ^ exponent.natAbs)
    · by_cases above : 0 ≤ exponent
      · by_cases fits : Word128 (q.numerator * 10 ^ exponent.natAbs) <;>
          simp [scale?, scale, tens, powerOfTen?_eq, word128?_eq, formed, above, fits, denominator,
            eq_comm]
      · by_cases fits : Word128 (q.denominator * 10 ^ exponent.natAbs) <;>
          simp [scale?, scale, tens, powerOfTen?_eq, word128?_eq, formed, above, fits, numerator,
            eq_comm]
    · simp [scale?, tens, powerOfTen?_eq, formed]

theorem Fits.unscaled {q : Quantity} {m : Multiplier} (fits : m.Fits q) :
    Word128 q.numerator ∧ Word128 q.denominator := by
  obtain ⟨-, numerator, denominator⟩ := fits
  cases m with
  | binary power => exact ⟨numerator.of_mul (one_le_pow₀ (by decide)), denominator⟩
  | decimal exponent =>
    have positive : (1 : Int) ≤ 10 ^ exponent.natAbs := one_le_pow₀ (by decide)
    by_cases above : 0 ≤ exponent
    · rw [scale, if_pos above] at numerator denominator
      exact ⟨numerator.of_mul positive, denominator⟩
    · rw [scale, if_neg above] at numerator denominator
      exact ⟨numerator, denominator.of_mul positive⟩

theorem scale_positive {q : Quantity} (m : Multiplier) (positive : 0 < q.denominator) :
    0 < (m.scale q).denominator := by
  cases m with
  | binary power => exact positive
  | decimal exponent =>
    rw [scale]
    split
    · exact positive
    · exact Int.mul_pos positive (pow_pos (by decide) _)

theorem scale_value (q : Quantity) (m : Multiplier) :
    ((m.scale q).numerator : ℚ) / (m.scale q).denominator =
      q.numerator / q.denominator * m.factor := by
  cases m with
  | binary power =>
    simp only [scale, factor, Int.cast_mul, Int.cast_pow, Int.cast_ofNat]
    ring
  | decimal exponent =>
    by_cases above : 0 ≤ exponent
    · have same : (10 : ℚ) ^ exponent = 10 ^ exponent.natAbs := by
        rw [← zpow_natCast, Int.natAbs_of_nonneg above]
      simp only [scale, factor, if_pos above, same, Int.cast_mul, Int.cast_pow, Int.cast_ofNat]
      ring
    · have same : (10 : ℚ) ^ exponent = (10 ^ exponent.natAbs)⁻¹ := by
        rw [← zpow_natCast, ← zpow_neg, Int.ofNat_natAbs_of_nonpos (by omega), neg_neg]
      simp only [scale, factor, if_neg above, same, Int.cast_mul, Int.cast_pow, Int.cast_ofNat]
      rw [div_mul_eq_div_div, div_eq_mul_inv _ ((10 : ℚ) ^ exponent.natAbs)]

end Multiplier

theorem Suffix.factor_multiplier (s : Suffix) : s.multiplier.factor = s.factor := by
  cases s <;> rfl

namespace Amount

/-- The number without its point, over the power of ten that the point stands for. -/
def unscaled (a : Amount) : Quantity :=
  ⟨Sign.value a.sign * placeValue (a.whole ++ a.decimals), 10 ^ a.decimals.length⟩

def quantity (a : Amount) : Quantity := a.suffix.multiplier.scale a.unscaled

def Fits (a : Amount) : Prop := a.suffix.multiplier.Fits a.unscaled

theorem quantity_positive (a : Amount) : 0 < a.quantity.denominator :=
  a.suffix.multiplier.scale_positive (by simp [unscaled])

theorem quantity_value (a : Amount) :
    (a.quantity.numerator : ℚ) / a.quantity.denominator = a.value := by
  have places : (10 : ℚ) ^ a.decimals.length ≠ 0 := pow_ne_zero _ (by decide)
  rw [quantity, Multiplier.scale_value, Suffix.factor_multiplier, value]
  congr 1
  simp only [unscaled, placeValue_append]
  push_cast
  field_simp

end Amount
end NodeDiagnostics.Usage
