/-!
# Calendar arithmetic

Days and milliseconds of the proleptic Gregorian calendar, counted from the start of 1970.
-/

namespace CatalogIngest
namespace Time

/-- Whether a year has a leap day. -/
def isLeapYear (year : Int) : Bool :=
  year % 4 = 0 && (year % 100 ≠ 0 || year % 400 = 0)

/-- The number of days of a month. -/
def daysInMonth (year : Int) (month : Nat) : Nat :=
  match month with
  | 2 => if isLeapYear year then 29 else 28
  | 4 | 6 | 9 | 11 => 30
  | _ => 31

/-- The number of days before a month in its year. -/
def daysBeforeMonth (year : Int) : Nat → Nat
  | 0 => 0
  | 1 => 0
  | month + 2 => daysBeforeMonth year (month + 1) + daysInMonth year (month + 1)

/-- The number of days from the start of year 0 to the start of a year, negative before. -/
def daysBeforeYear (year : Int) : Int :=
  365 * year + (year + 3) / 4 - (year + 99) / 100 + (year + 399) / 400

/-- The number of days from the start of 1970 to a date. -/
def daysFromEpoch (year : Int) (month day : Nat) : Int :=
  daysBeforeYear year - daysBeforeYear 1970 + daysBeforeMonth year month + day - 1

/-- A date and a time of day, to the nanosecond. -/
structure CivilTime where
  year : Int
  month : Nat
  day : Nat
  hour : Nat
  minute : Nat
  second : Nat
  nanosecond : Nat
  deriving DecidableEq

namespace CivilTime

/-- The first and last year that a date may have. -/
def firstYear : Int := -262143

/-- The last year that a date may have. -/
def lastYear : Int := 262142

/-- Whether every part is in its range. The second 60 is a leap second, in any minute. -/
def isValid (time : CivilTime) : Bool :=
  firstYear ≤ time.year && time.year ≤ lastYear &&
    1 ≤ time.month && time.month ≤ 12 &&
    1 ≤ time.day && time.day ≤ daysInMonth time.year time.month &&
    time.hour ≤ 23 && time.minute ≤ 59 && time.second ≤ 60

/-- Milliseconds from the start of 1970. A leap second is the second 59 with one more second. -/
def millis (time : CivilTime) : Int :=
  (((daysFromEpoch time.year time.month time.day * 24 + time.hour) * 60 + time.minute) * 60 +
    time.second) * 1000 + time.nanosecond / 1000000

end CivilTime

/-- The date that lies a number of days after the start of 1970, by its year, month and day. -/
def dateOfDays (days : Int) : Int × Nat × Nat :=
  let shifted := days + 719468
  let era := shifted / 146097
  let dayOfEra := (shifted % 146097).toNat
  let yearOfEra := (dayOfEra - dayOfEra / 1460 + dayOfEra / 36524 - dayOfEra / 146096) / 365
  let dayOfYear := dayOfEra - (365 * yearOfEra + yearOfEra / 4 - yearOfEra / 100)
  let shiftedMonth := (5 * dayOfYear + 2) / 153
  let day := dayOfYear - (153 * shiftedMonth + 2) / 5 + 1
  let month := if shiftedMonth < 10 then shiftedMonth + 3 else shiftedMonth - 9
  let year := era * 400 + yearOfEra + if month ≤ 2 then 1 else 0
  (year, month, day)

end Time
end CatalogIngest
