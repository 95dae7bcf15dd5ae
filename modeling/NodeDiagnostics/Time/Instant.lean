import NodeDiagnostics.Text.Numeral

namespace NodeDiagnostics.Time

/-- Seconds since the epoch and nanoseconds; a nanosecond count from `1000000000` on lies in a leap
second that follows the given one. -/
structure Instant where
  seconds : Int
  nanoseconds : Nat
deriving DecidableEq, Repr

def Instant.epoch : Instant := ⟨0, 0⟩

structure Date where
  year : Int
  month : Nat
  day : Nat
deriving DecidableEq, Repr

/-- The date of a day counted from the epoch. Years are counted from March in eras of four
hundred, so that the leap day is the last of its year. -/
def dateOfDay (day : Int) : Date :=
  let z := day + 719468
  let era := z / 146097
  let dayOfEra := (z % 146097).toNat
  let yearOfEra :=
    (dayOfEra - dayOfEra / 1460 + dayOfEra / 36524 - dayOfEra / 146096) / 365
  let dayOfYear := dayOfEra - (365 * yearOfEra + yearOfEra / 4 - yearOfEra / 100)
  let m := (5 * dayOfYear + 2) / 153
  let month := if m < 10 then m + 3 else m - 9
  let year : Int := yearOfEra + era * 400 + if month ≤ 2 then 1 else 0
  ⟨year, month, dayOfYear - (153 * m + 2) / 5 + 1⟩

def yearText (year : Int) : List Char :=
  if 0 ≤ year ∧ year ≤ 9999 then Text.padded 4 year.toNat
  else (if year < 0 then '-' else '+') :: Text.padded 4 year.natAbs

def Instant.text (t : Instant) : String :=
  let date := dateOfDay (t.seconds / 86400)
  let time := (t.seconds % 86400).toNat
  let leap := 1000000000 ≤ t.nanoseconds
  -- a leap second shows as the second after the given one, so perhaps as `60`
  let second := time % 60 + if leap then 1 else 0
  let nanosecond := if leap then t.nanoseconds - 1000000000 else t.nanoseconds
  String.ofList <|
    yearText date.year ++ '-' :: Text.padded 2 date.month ++ '-' :: Text.padded 2 date.day ++
      'T' :: Text.padded 2 (time / 3600) ++ ':' :: Text.padded 2 (time / 60 % 60) ++
      ':' :: Text.padded 2 second ++ '.' :: Text.padded 9 nanosecond ++ ['Z']

example : Instant.text ⟨1792224930, 1000⟩ = "2026-10-17T08:15:30.000001000Z" := by decide +kernel
example : Instant.text ⟨951782400, 0⟩ = "2000-02-29T00:00:00.000000000Z" := by decide +kernel

structure Clock where
  upcoming : List Instant
  last : Instant
deriving DecidableEq, Repr

def Clock.ofReadings (readings : List Instant) : Clock := ⟨readings, .epoch⟩

def Clock.read (c : Clock) : Instant × Clock :=
  match c.upcoming with
  | [] => (c.last, c)
  | t :: rest => (t, ⟨rest, t⟩)

end NodeDiagnostics.Time
