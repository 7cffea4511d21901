/-
**Points in time.**

A point in time is counted in nanoseconds from the beginning of 1970 and written in the Gregorian
calendar, without leap seconds and in no zone but the universal one. The days are counted in eras
of 400 years, after which the calendar repeats, and the years begin in March, so that the leap day
is the last day of a year.

* `Date.ofDays`: the date of a day;
* `Instant.text`: the date and the time of day, with the digits of the second that are asked for;
* `Instant.exactText`: the same with as many digits as are needed.
-/

namespace AccessAudit

/-- A date of the Gregorian calendar. -/
structure Date where
  year : Nat
  month : Nat
  day : Nat
  deriving DecidableEq, Repr

namespace Date

/-- The days from the first of March of the year 0 to the beginning of 1970. -/
def daysBefore1970 : Nat := 719468

/-- The days of 400 years. -/
def daysOfEra : Nat := 146097

/-- The date of a day, counted from the beginning of 1970. -/
def ofDays (days : Nat) : Date :=
  let count := days + daysBefore1970
  let era := count / daysOfEra
  let dayOfEra := count % daysOfEra
  let yearOfEra := (dayOfEra - dayOfEra / 1460 + dayOfEra / 36524 - dayOfEra / 146096) / 365
  let dayOfYear := dayOfEra - (365 * yearOfEra + yearOfEra / 4 - yearOfEra / 100)
  let monthFromMarch := (5 * dayOfYear + 2) / 153
  let month := if monthFromMarch < 10 then monthFromMarch + 3 else monthFromMarch - 9
  { year := yearOfEra + era * 400 + if month ≤ 2 then 1 else 0
    month := month
    day := dayOfYear - (153 * monthFromMarch + 2) / 5 + 1 }

end Date

/-- A point in time. -/
structure Instant where
  /-- The nanoseconds from the beginning of 1970. -/
  nanoseconds : Nat
  deriving DecidableEq, Repr

namespace Instant

/-- A number with zeros in front up to a width. -/
def padded (width n : Nat) : String :=
  let digits := (Nat.toDigits 10 n)
  String.ofList (List.replicate (width - digits.length) '0' ++ digits)

/-- The date of a point in time. -/
def date (instant : Instant) : Date :=
  Date.ofDays (instant.nanoseconds / 1000000000 / 86400)

/-- The year, the month and the day. -/
def dateText (instant : Instant) : String :=
  let date := instant.date
  padded 4 date.year ++ "-" ++ padded 2 date.month ++ "-" ++ padded 2 date.day

/-- The first digits of the fraction of the second. -/
def fractionText (digits : Nat) (instant : Instant) : String :=
  if digits = 0 then ""
  else "." ++ padded digits (instant.nanoseconds % 1000000000 / Nat.pow 10 (9 - digits))

/-- The date and the time of day with so many digits of the second, at most nine. -/
def text (digits : Nat) (instant : Instant) : String :=
  let second := instant.nanoseconds / 1000000000 % 86400
  instant.dateText ++ "T" ++ padded 2 (second / 3600) ++ ":" ++ padded 2 (second / 60 % 60) ++
    ":" ++ padded 2 (second % 60) ++ instant.fractionText digits ++ "Z"

/-- The date and the time of day with as many groups of three digits as are needed. -/
def exactText (instant : Instant) : String :=
  instant.text <|
    if instant.nanoseconds % 1000000000 = 0 then 0
    else if instant.nanoseconds % 1000000 = 0 then 3
    else if instant.nanoseconds % 1000 = 0 then 6
    else 9

end Instant

end AccessAudit
