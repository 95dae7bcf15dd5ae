import Mathlib.Algebra.Group.Nat.Defs
import Mathlib.Data.List.Basic
import Mathlib.Data.Set.Function
import NodeDiagnostics.Proofs.Time.Calendar

namespace NodeDiagnostics.Text

theorem ofDigitChars_padded (width n : Nat) : Nat.ofDigitChars 10 (padded width n) 0 = n := by
  have zeros (k : Nat) (cs : List Char) :
      Nat.ofDigitChars 10 (List.replicate k '0' ++ cs) 0 = Nat.ofDigitChars 10 cs 0 := by
    induction k with
    | zero => rfl
    | succ k ih => exact ih
  rw [padded, zeros, Nat.ofDigitChars_ten_toDigits]

theorem padded_injective {width n m : Nat} (same : padded width n = padded width m) : n = m := by
  rw [← ofDigitChars_padded width n, same, ofDigitChars_padded]

theorem length_padded {width n : Nat} (some : 0 < width) (fits : n < 10 ^ width) :
    (padded width n).length = width := by
  have short := (Nat.length_toDigits_le_iff (by decide) some).mpr fits
  rw [padded, List.length_append, List.length_replicate]
  omega

theorem isDigit_of_mem_padded {width n : Nat} {c : Char} (member : c ∈ padded width n) :
    c.isDigit = true := by
  rcases List.mem_append.mp member with zero | digit
  · rw [List.eq_of_mem_replicate zero]
    rfl
  · exact Nat.isDigit_of_mem_toDigits (by decide) (by decide) digit

end NodeDiagnostics.Text

namespace NodeDiagnostics.Time

theorem yearText_injective {first second : Int} (same : yearText first = yearText second) :
    first = second := by
  have signed {year : Int} {n : Nat} (differ : (if year < 0 then '-' else '+') :: Text.padded 4
      year.natAbs = Text.padded 4 n) : False := by
    have digit := Text.isDigit_of_mem_padded (differ ▸ List.mem_cons_self)
    split at digit <;> exact absurd digit (by decide)
  unfold yearText at same
  by_cases short : 0 ≤ first ∧ first ≤ 9999 <;> by_cases short' : 0 ≤ second ∧ second ≤ 9999 <;>
    simp only [short, short', if_false] at same
  · have := Text.padded_injective same
    omega
  · exact (signed same.symm).elim
  · exact (signed same).elim
  · obtain ⟨sign, digits⟩ := List.cons.inj same
    have := Text.padded_injective digits
    split at sign <;> split at sign <;> first | omega | exact absurd sign (by decide)

namespace Instant

/-- Less than a second behind the given one, or a leap second at the end of a minute. -/
def Proper (t : Instant) : Prop :=
  t.nanoseconds < 1000000000 ∨ t.nanoseconds < 2000000000 ∧ t.seconds % 60 = 59

@[ext]
structure Shown where
  date : Date
  hour : Nat
  minute : Nat
  second : Nat
  nanosecond : Nat

def shown (t : Instant) : Shown :=
  let time := (t.seconds % 86400).toNat
  let leap := 1000000000 ≤ t.nanoseconds
  ⟨dateOfDay (t.seconds / 86400), time / 3600, time / 60 % 60, time % 60 + if leap then 1 else 0,
    if leap then t.nanoseconds - 1000000000 else t.nanoseconds⟩

def Shown.chars (s : Shown) : List Char :=
  yearText s.date.year ++ '-' :: Text.padded 2 s.date.month ++ '-' :: Text.padded 2 s.date.day ++
    'T' :: Text.padded 2 s.hour ++ ':' :: Text.padded 2 s.minute ++ ':' :: Text.padded 2 s.second ++
      '.' :: Text.padded 9 s.nanosecond ++ ['Z']

theorem text_eq (t : Instant) : t.text = String.ofList t.shown.chars := rfl

theorem shown_injective {t u : Instant} (proper : t.Proper) (proper' : u.Proper)
    (same : t.shown = u.shown) : t = u := by
  obtain ⟨seconds, nanoseconds⟩ := t
  obtain ⟨seconds', nanoseconds'⟩ := u
  simp only [shown, Shown.mk.injEq] at same
  obtain ⟨date, hour, minute, second, nanosecond⟩ := same
  have day := dateOfDay_injective date
  simp only [Proper] at proper proper'
  rw [mk.injEq]
  by_cases leap : 1000000000 ≤ nanoseconds <;> by_cases leap' : 1000000000 ≤ nanoseconds' <;>
    simp only [leap, leap', if_true, if_false] at second nanosecond <;> omega

structure Shown.Fits (s : Shown) : Prop where
  month : s.date.month < 10 ^ 2
  day : s.date.day < 10 ^ 2
  hour : s.hour < 10 ^ 2
  minute : s.minute < 10 ^ 2
  second : s.second < 10 ^ 2
  nanosecond : s.nanosecond < 10 ^ 9

theorem Proper.fits {t : Instant} (proper : t.Proper) : t.shown.Fits := by
  obtain ⟨month, day⟩ := dateOfDay_bounds (t.seconds / 86400)
  unfold Proper at proper
  constructor <;> dsimp only [shown] <;> first | omega | (split <;> omega)

theorem Shown.chars_injective {s t : Shown} (fits : s.Fits) (fits' : t.Fits)
    (same : s.chars = t.chars) : s = t := by
  -- All fields but the year have a fixed width, so they come off from the end.
  have field {width n m : Nat} {front front' : List Char} {c : Char} (some : 0 < width)
      (short : n < 10 ^ width) (short' : m < 10 ^ width)
      (same : front ++ c :: Text.padded width n = front' ++ c :: Text.padded width m) :
      front = front' ∧ n = m := by
    have size : (c :: Text.padded width n).length = (c :: Text.padded width m).length := by
      rw [List.length_cons, List.length_cons, Text.length_padded some short,
        Text.length_padded some short']
    obtain ⟨fronts, digits⟩ := List.append_inj' same size
    exact ⟨fronts, Text.padded_injective (List.cons.inj digits).2⟩
  unfold chars at same
  have same := (List.append_inj' same rfl).1
  obtain ⟨same, nanosecond⟩ := field (by decide) fits.nanosecond fits'.nanosecond same
  obtain ⟨same, second⟩ := field (by decide) fits.second fits'.second same
  obtain ⟨same, minute⟩ := field (by decide) fits.minute fits'.minute same
  obtain ⟨same, hour⟩ := field (by decide) fits.hour fits'.hour same
  obtain ⟨same, day⟩ := field (by decide) fits.day fits'.day same
  obtain ⟨same, month⟩ := field (by decide) fits.month fits'.month same
  have year := yearText_injective same
  exact Shown.ext (Date.mk.injEq .. |>.mpr ⟨year, month, day⟩) hour minute second nanosecond

theorem text_injOn : Set.InjOn text {t | t.Proper} := by
  intro t proper u proper' same
  rw [text_eq, text_eq] at same
  exact shown_injective proper proper'
    (Shown.chars_injective proper.fits proper'.fits (String.ofList_injective same))

def Plain (c : Char) : Prop := c ≠ ' ' ∧ c ≠ '/'
deriving Decidable

theorem plain_of_isDigit {c : Char} (digit : c.isDigit = true) : Plain c := by
  constructor <;> rintro rfl <;> exact absurd digit (by decide)

theorem plain_text (t : Instant) : ∀ c ∈ t.text.toList, Plain c := by
  have padded (width n : Nat) : ∀ c ∈ Text.padded width n, Plain c := fun _ digit =>
    plain_of_isDigit (Text.isDigit_of_mem_padded digit)
  have year (y : Int) : ∀ c ∈ yearText y, Plain c := by
    unfold yearText
    split
    · exact padded 4 _
    · refine List.forall_mem_cons.mpr ⟨?_, padded 4 _⟩
      split <;> decide
  rw [text_eq, String.toList_ofList, Shown.chars]
  simp only [List.forall_mem_append, List.forall_mem_cons]
  and_intros <;> first | exact year _ | exact padded _ _ | exact List.forall_mem_nil _ | decide

end Instant
end NodeDiagnostics.Time
