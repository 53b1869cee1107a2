import Mathlib.Data.Nat.Notation

/-!
# Dates of JavaScript

A `Date` from 1970 on is the number of milliseconds since then. `toISOString` gives
the date and the time of day in UTC, by the usual computation of the day of the
civil calendar: years begin with March, so that the leap day is a year's last, and
400 of them are an era of 146097 days.
-/

namespace SensorNet.Js

/-- A `Date`: milliseconds since 1970. -/
abbrev Date := Nat

namespace Date

/-- Year, month and day of the day `days` days after the first of January 1970. -/
def civil (days : Nat) : Nat × Nat × Nat :=
  -- the first of March of the year 0 is 719468 days before that day
  let z := days + 719468
  let era := z / 146097
  let dayOfEra := z % 146097
  let yearOfEra :=
    (dayOfEra - dayOfEra / 1460 + dayOfEra / 36524 - dayOfEra / 146096) / 365
  let dayOfYear := dayOfEra - (365 * yearOfEra + yearOfEra / 4 - yearOfEra / 100)
  let fromMarch := (5 * dayOfYear + 2) / 153
  let day := dayOfYear - (153 * fromMarch + 2) / 5 + 1
  let month := if fromMarch < 10 then fromMarch + 3 else fromMarch - 9
  let year := yearOfEra + era * 400
  (if month ≤ 2 then year + 1 else year, month, day)

/-- The number with leading zeros up to the width. -/
def pad (width n : Nat) : String :=
  let digits := Nat.toDigits 10 n
  String.ofList (List.replicate (width - digits.length) '0' ++ digits)

/-- `toISOString()` -/
def toISOString (ms : Date) : String :=
  let (year, month, day) := civil (ms / 86400000)
  let time := ms % 86400000
  -- years with more than four digits are written with a sign and six digits
  (if year < 10000 then pad 4 year else "+" ++ pad 6 year) ++
    "-" ++ pad 2 month ++ "-" ++ pad 2 day ++
    "T" ++ pad 2 (time / 3600000) ++ ":" ++ pad 2 (time / 60000 % 60) ++
    ":" ++ pad 2 (time / 1000 % 60) ++ "." ++ pad 3 (time % 1000) ++ "Z"

example : toISOString 1736935200000 = "2025-01-15T10:00:00.000Z" := by decide +kernel

end Date

end SensorNet.Js
