/-!
# Dates, times of day and offsets

Which years, months, days, hours, minutes, seconds and offsets from universal time exist. The
calendar is the Gregorian one, extended to all years within the range of dates; a leap second may
follow any minute.
-/

namespace TextRecords.Calendar

/-- Whether a year has a leap day. -/
def isLeapYear (year : Int) : Bool :=
  year % 4 == 0 && (year % 100 != 0 || year % 400 == 0)

/-- The number of days of a month. -/
def daysInMonth (year : Int) (month : Nat) : Nat :=
  match month with
  | 2 => if isLeapYear year then 29 else 28
  | 4 | 6 | 9 | 11 => 30
  | _ => 31

/-- The first year in which dates exist. -/
def firstYear : Int := -262143

/-- The last year in which dates exist. -/
def lastYear : Int := 262142

/-- Whether dates exist in a year. -/
def yearExists (year : Int) : Bool :=
  firstYear ≤ year && year ≤ lastYear

/-- A day of a year. -/
structure Date where
  year : Int
  month : Nat
  day : Nat

/-- Whether there is such a day. -/
def Date.exists (date : Date) : Bool :=
  yearExists date.year && 1 ≤ date.month && date.month ≤ 12 && 1 ≤ date.day &&
    date.day ≤ daysInMonth date.year date.month

/-- The number of days from the first of January of the year 1 to a date. -/
def Date.dayNumber (date : Date) : Int :=
  let before := date.year - 1
  let months := (List.range (date.month - 1)).map fun month => daysInMonth date.year (month + 1)
  let inYear : Nat := months.foldl (· + ·) 0 + date.day - 1
  before * 365 + before / 4 - before / 100 + before / 400 + inYear

/-- The day of the week, counted from Monday as zero. -/
def Date.weekday (date : Date) : Nat :=
  (date.dayNumber % 7).toNat

/-- A time of day. -/
structure Time where
  hour : Nat
  minute : Nat
  second : Nat

/-- Whether there is such a time. -/
def Time.exists (time : Time) : Bool :=
  time.hour < 24 && time.minute < 60 && time.second ≤ 60

/-- Whether there is an offset of so many minutes from universal time: less than a day. -/
def offsetExists (minutes : Int) : Bool :=
  minutes.natAbs < 24 * 60

/-- Whether the instant of a date and time exists that is `offset` minutes ahead of universal time:
there too, its day lies within the years of dates. -/
def instantExists (date : Date) (time : Time) (offset : Int) : Bool :=
  let minutes : Int := time.hour * 60 + time.minute
  let day := date.dayNumber + (minutes - offset) / (24 * 60)
  (Date.mk firstYear 1 1).dayNumber ≤ day && day ≤ (Date.mk lastYear 12 31).dayNumber

end TextRecords.Calendar
