import Mathlib.Data.Rat.Cast.Order
import NodeDiagnostics.Proofs.Usage.Reading

namespace NodeDiagnostics.Usage
open Text

def Word64 (n : Int) : Prop := -2 ^ 63 ≤ n ∧ n < 2 ^ 63

instance (n : Int) : Decidable (Word64 n) := inferInstanceAs (Decidable (_ ∧ _))

namespace Quantity

def ceiling (q : Quantity) (scale : Int) : Int :=
  q.numerator * scale / q.denominator +
    if q.numerator * scale % q.denominator = 0 then 0 else 1

theorem scaledCeil_eq (q : Quantity) (scale : Int) : q.scaledCeil scale =
    if Word128 (q.numerator * scale) ∧ Word64 (q.ceiling scale) then .ok (q.ceiling scale)
    else .error (.configuration "quantity overflow") := by
  rw [scaledCeil, word128?_eq]
  by_cases product : Word128 (q.numerator * scale)
  · rw [if_pos product]
    simp only [product, true_and]
    rfl
  · rw [if_neg product, if_neg (fun fits => product fits.1)]

theorem ceiling_le_iff {q : Quantity} (positive : 0 < q.denominator) (scale n : Int) :
    q.ceiling scale ≤ n ↔ q.numerator * scale ≤ n * q.denominator := by
  have rest := Int.emod_nonneg (q.numerator * scale) positive.ne'
  have short := Int.emod_lt_of_pos (q.numerator * scale) positive
  have whole := Int.mul_ediv_add_emod (q.numerator * scale) q.denominator
  rw [ceiling]
  -- With the quotient `k` and the rest `r`, both sides compare `k * d + r` to `n * d`.
  generalize q.numerator * scale / q.denominator = k at whole ⊢
  generalize q.numerator * scale % q.denominator = r at rest short whole ⊢
  rw [← whole]
  split
  · next even =>
    rw [even, Int.add_zero, Int.add_zero, Int.mul_comm]
    exact (Int.mul_le_mul_right positive).symm
  · next odd =>
    constructor
    · intro le
      have := Int.mul_le_mul_of_nonneg_right le positive.le
      rw [Int.add_mul, Int.one_mul, Int.mul_comm k] at this
      omega
    · intro le
      by_contra above
      have below : n ≤ k := by omega
      have := Int.mul_le_mul_of_nonneg_right below positive.le
      rw [Int.mul_comm k] at this
      omega

theorem ceiling_least {q : Quantity} (positive : 0 < q.denominator) (scale : Int) :
    IsLeast {n : Int | (q.numerator : ℚ) / q.denominator * scale ≤ n} (q.ceiling scale) := by
  have above (n : Int) : (q.numerator : ℚ) / q.denominator * scale ≤ n ↔ q.ceiling scale ≤ n := by
    have denominator : (0 : ℚ) < q.denominator := by exact_mod_cast positive
    rw [ceiling_le_iff positive, div_mul_eq_mul_div, div_le_iff₀ denominator]
    exact_mod_cast Iff.rfl
  exact ⟨(above _).mpr le_rfl, fun n least => (above n).mp least⟩

/-- Neither the quotient nor the rounded quotient leaves the word of the product. -/
theorem ceiling_word {q : Quantity} {scale : Int} (positive : 0 < q.denominator)
    (product : Word128 (q.numerator * scale)) :
    Word128 (q.numerator * scale / q.denominator) ∧ Word128 (q.ceiling scale) := by
  obtain ⟨low, high⟩ := product
  generalize product : q.numerator * scale = n at low high
  have rounded : q.ceiling scale = n / q.denominator ∨ q.ceiling scale = n / q.denominator + 1 := by
    rw [ceiling, product]
    split
    · exact .inl (Int.add_zero _)
    · exact .inr rfl
  have least : min n 0 ≤ n / q.denominator := by
    rw [Int.le_ediv_iff_mul_le positive]
    exact (mul_le_of_one_le_right (min_le_right n 0) positive).trans (min_le_left n 0)
  have most : q.ceiling scale ≤ max n 0 := by
    rw [ceiling_le_iff positive, product]
    exact (le_max_left n 0).trans (le_mul_of_one_le_right (le_max_right n 0) positive)
  constructor <;> constructor <;> omega

/-- An amount is read, whole or not at all, as a fraction that is exactly its value. The scaled
fraction is the least whole number that is not below, if the product and that number fit. -/
theorem amount_read_exactly (a : Amount) (scale : Int) :
    let text := String.ofList a.chars
    let q := a.quantity
    (∀ r, parse text = .ok r ↔ a.Fits ∧ r = q) ∧
    (parse text = .error (.configuration ("invalid quantity " ++ quoted text)) ↔ ¬ a.Fits) ∧
    0 < q.denominator ∧ (q.numerator : ℚ) / q.denominator = a.value ∧
    ∃ least, IsLeast {n : Int | a.value * scale ≤ n} least ∧
      (Word128 (q.numerator * scale) →
        Word128 (q.numerator * scale / q.denominator) ∧ Word128 least) ∧
      q.scaledCeil scale =
        if Word128 (q.numerator * scale) ∧ Word64 least then .ok least
        else .error (.configuration "quantity overflow") := by
  intro text q
  have trimmed : trim text.toList = a.chars := by
    rw [String.toList_ofList, trim_unblank a.unblank]
  have read (r : Quantity) : parse text = .ok r ↔ a.Fits ∧ r = q := by
    rw [parse_eq_ok_iff, trimmed, ofChars?_amount]
  have refused : parse text = .error (.configuration ("invalid quantity " ++ quoted text)) ↔
      ¬ a.Fits := by
    simp only [parse_eq_error_iff, trimmed, Option.eq_none_iff_forall_ne_some, Ne,
      ofChars?_amount, not_and]
    exact ⟨fun none fits => none _ fits rfl, fun small _ fits => absurd fits small⟩
  have positive : 0 < q.denominator := a.quantity_positive
  have value : (q.numerator : ℚ) / q.denominator = a.value := a.quantity_value
  have least := ceiling_least positive scale
  rw [value] at least
  exact ⟨read, refused, positive, value, q.ceiling scale, least, ceiling_word positive,
    scaledCeil_eq q scale⟩

end Quantity
end NodeDiagnostics.Usage
