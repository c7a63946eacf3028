import InferenceBench.Numeral.Layout

/-! # Instants

An instant counts seconds and nanoseconds from the start of 1970. A leap second is written as
more than a thousand million nanoseconds in the last second of a minute. -/

namespace InferenceBench

structure Instant where
  seconds : Int
  nanoseconds : Nat
  deriving Repr, DecidableEq

/-- A day of the calendar that extends the Gregorian one to all years. -/
structure Date where
  year : Int
  month : Nat
  day : Nat
  deriving Repr, DecidableEq

/-- The date of a day counted from the start of 1970. The count is shifted to eras of 400 years
whose years begin in March, so that a leap day is the last of its year. -/
def Date.ofDays (days : Int) : Date :=
  let shifted := days + 719468
  let era := shifted.fdiv 146097
  let dayOfEra := (shifted.fmod 146097).toNat
  let yearOfEra := (dayOfEra - dayOfEra / 1460 + dayOfEra / 36524 - dayOfEra / 146096) / 365
  let dayOfYear := dayOfEra - (365 * yearOfEra + yearOfEra / 4 - yearOfEra / 100)
  let shiftedMonth := (5 * dayOfYear + 2) / 153
  let month := if shiftedMonth < 10 then shiftedMonth + 3 else shiftedMonth - 9
  { year := yearOfEra + era * 400 + (if month ≤ 2 then 1 else 0)
    month
    day := dayOfYear - (153 * shiftedMonth + 2) / 5 + 1 }

namespace Instant

/-- The instant with these parts, if it lies in the range of the calendar. -/
def ofParts? (seconds : Int) (nanoseconds : Nat) : Option Instant :=
  if seconds < -8334601228800 || 8210266876799 < seconds then none
  else if 2000000000 ≤ nanoseconds then none
  else if 1000000000 ≤ nanoseconds && seconds.fmod 60 ≠ 59 then none
  else some ⟨seconds, nanoseconds⟩

/-- A number with at least `width` digits. -/
def padded (width n : Nat) : List Char :=
  let digits := Numeral.digitText n
  List.replicate (width - digits.length) '0' ++ digits

/-- A year with four digits, or with a sign if it needs more or lies before the year zero. -/
def yearText (year : Int) : List Char :=
  if 0 ≤ year && year ≤ 9999 then padded 4 year.natAbs
  else (if year < 0 then '-' else '+') :: padded 4 year.natAbs

/-- The instant in universal time, cut to microseconds. -/
def text (instant : Instant) : List Char :=
  let date := Date.ofDays (instant.seconds.fdiv 86400)
  let second := (instant.seconds.fmod 86400).toNat
  let leap := instant.nanoseconds / 1000000000
  yearText date.year ++ '-' :: padded 2 date.month ++ '-' :: padded 2 date.day ++
    'T' :: padded 2 (second / 3600) ++ ':' :: padded 2 (second / 60 % 60) ++
    ':' :: padded 2 (second % 60 + leap) ++
    '.' :: padded 6 (instant.nanoseconds % 1000000000 / 1000) ++ ['Z']

end Instant

end InferenceBench
