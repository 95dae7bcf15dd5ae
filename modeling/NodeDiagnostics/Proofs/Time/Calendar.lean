import NodeDiagnostics.Time.Instant

namespace NodeDiagnostics.Time

def yearOfEra (dayOfEra : Nat) : Nat :=
  (dayOfEra - dayOfEra / 1460 + dayOfEra / 36524 - dayOfEra / 146096) / 365

def yearStart (year : Nat) : Nat := 365 * year + year / 4 - year / 100

/-- A day of an era by its century, its cycle of four years, and the days of the cycle before it.
The last day of the era is one more in the last century. -/
theorem exists_cycle {day : Nat} (inside : day < 146097) :
    ∃ century cycle rest, day = 36524 * century + 1461 * cycle + rest ∧
      day / 36524 = century + day / 146096 ∧ century ≤ 3 ∧ cycle ≤ 24 ∧ rest ≤ 1460 := by
  obtain ⟨century, split⟩ : ∃ century, century + day / 146096 = day / 36524 :=
    ⟨day / 36524 - day / 146096, by omega⟩
  refine ⟨century, (day - 36524 * century) / 1461, (day - 36524 * century) % 1461, ?_, split.symm,
    ?_, ?_, ?_⟩ <;> omega

theorem yearOfEra_spec {day : Nat} (inside : day < 146097) :
    yearOfEra day ≤ 399 ∧ yearStart (yearOfEra day) ≤ day ∧
      day ≤ yearStart (yearOfEra day) + 365 := by
  obtain ⟨century, cycle, rest, parts, hundreds, centuries, cycles, days⟩ := exists_cycle inside
  -- The leap day of a cycle is left out late in it; at which day does not matter.
  obtain ⟨skipped, fours, late⟩ : ∃ skipped, day / 1460 = 25 * century + cycle + skipped ∧
      (skipped = 0 ∨ skipped = 1 ∧ 1364 ≤ rest) :=
    ⟨(24 * century + cycle + rest) / 1460, by omega, by omega⟩
  have count : day - day / 1460 + day / 36524 - day / 146096 =
      365 * (100 * century + 4 * cycle) + (rest - skipped) := by
    rw [fours, hundreds, ← Nat.add_assoc, Nat.add_sub_cancel]
    clear fours hundreds
    omega
  obtain ⟨year, within, before, after⟩ : ∃ year,
      yearOfEra day = 100 * century + 4 * cycle + year ∧ 365 * year ≤ rest ∧
        rest ≤ 365 * year + 365 ∧ year ≤ 3 := by
    refine ⟨(rest - skipped) / 365, ?_, ?_, ?_, ?_⟩
    · rw [yearOfEra, count, Nat.mul_add_div (by decide)]
    all_goals omega
  have leap : (100 * century + 4 * cycle + year) / 4 = 25 * century + cycle := by omega
  have unleap : (100 * century + 4 * cycle + year) / 100 = century := by omega
  rw [within, yearStart, leap, unleap]
  omega

/-- Where a day lies: its era, the year of the era, and the day of that year, which begins in
March. -/
structure Place where
  era : Int
  year : Nat
  day : Nat
  years : year ≤ 399
  days : day ≤ 365

namespace Place

def count (p : Place) : Int := p.era * 146097 + yearStart p.year + p.day - 719468

def month (p : Place) : Nat := (5 * p.day + 2) / 153

theorem month_le (p : Place) : p.month ≤ 11 := by
  have := p.days
  unfold month
  omega

def calendarMonth (p : Place) : Nat := if p.month < 10 then p.month + 3 else p.month - 9

theorem calendarMonth_le (p : Place) : p.calendarMonth ≤ 12 := by
  have := p.month_le
  unfold calendarMonth
  split <;> omega

theorem month_eq {p q : Place} (same : p.calendarMonth = q.calendarMonth) : p.month = q.month := by
  have := p.month_le
  have := q.month_le
  unfold calendarMonth at same
  split at same <;> split at same <;> omega

def date (p : Place) : Date :=
  ⟨p.year + p.era * 400 + if p.calendarMonth ≤ 2 then 1 else 0, p.calendarMonth,
    p.day - (153 * p.month + 2) / 5 + 1⟩

theorem date_injective {p q : Place} (same : p.date = q.date) : p.count = q.count := by
  simp only [date, Date.mk.injEq] at same
  obtain ⟨years, months, days⟩ := same
  have month := month_eq months
  have day : p.day = q.day := by
    unfold Place.month at month days
    omega
  have year : p.era = q.era ∧ p.year = q.year := by
    have := p.years
    have := q.years
    rw [months] at years
    omega
  rw [count, count, year.1, year.2, day]

end Place

theorem exists_place (n : Int) : ∃ p : Place, p.count = n ∧ p.date = dateOfDay n := by
  let day := ((n + 719468) % 146097).toNat
  have inside : day < 146097 := by omega
  obtain ⟨years, before, after⟩ := yearOfEra_spec inside
  refine ⟨⟨(n + 719468) / 146097, yearOfEra day, day - yearStart (yearOfEra day), years, by omega⟩,
    ?_, rfl⟩
  simp only [Place.count]
  omega

theorem dateOfDay_injective {first second : Int} (same : dateOfDay first = dateOfDay second) :
    first = second := by
  obtain ⟨p, rfl, date⟩ := exists_place first
  obtain ⟨q, rfl, date'⟩ := exists_place second
  exact Place.date_injective (date.trans (same.trans date'.symm))

theorem dateOfDay_bounds (n : Int) : (dateOfDay n).month ≤ 12 ∧ (dateOfDay n).day ≤ 31 := by
  obtain ⟨p, -, date⟩ := exists_place n
  rw [← date]
  refine ⟨p.calendarMonth_le, ?_⟩
  simp only [Place.date, Place.month]
  omega

end NodeDiagnostics.Time
