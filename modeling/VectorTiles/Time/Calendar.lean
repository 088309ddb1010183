/-!
# The calendar

Days are counted with the rules of the Gregorian calendar for all years from 1 on: a year is a leap
year when it is divisible by four, but a full century only when it is divisible by four hundred.

**Results.**

* `isLeapYear`, `daysInMonth`.
* `dayNumber`: how many days lie between the first of January of the year 1 and a date.
* `dateOfDay`: the date that so many days lie behind.
* `weekStart`, `weeksInYear`: the weeks of a year, which begin on Mondays. The first of them is the
  one that holds the first Thursday of the year.
-/

namespace VectorTiles
namespace Time

def isLeapYear (year : Nat) : Bool :=
  year % 4 == 0 && (year % 100 != 0 || year % 400 == 0)

/-- The length of a month, from 1 for January on. -/
def daysInMonth (year month : Nat) : Nat :=
  match month with
  | 2 => if isLeapYear year then 29 else 28
  | 4 | 6 | 9 | 11 => 30
  | _ => 31

def daysBeforeYear (year : Nat) : Nat :=
  let past := year - 1
  365 * past + past / 4 - past / 100 + past / 400

def daysBeforeMonth (year : Nat) : Nat → Nat
  | 0 | 1 => 0
  | month + 1 => daysBeforeMonth year month + daysInMonth year month

/-- The number of days from the first of January of the year 1 to a date. -/
def dayNumber (year month day : Nat) : Nat :=
  daysBeforeYear year + daysBeforeMonth year month + (day - 1)

/-- The years that have passed within a span of days, and the days that are left. The span is cut
into pieces of 400, 100, 4 and one years. -/
def splitYears (days : Nat) : Nat × Nat :=
  let long := days % 146097
  let centuries := min 3 (long / 36524)
  let middle := long - 36524 * centuries
  let short := middle % 1461
  let years := min 3 (short / 365)
  (400 * (days / 146097) + 100 * centuries + 4 * (middle / 1461) + years, short - 365 * years)

/-- The month and the day that so many days lie behind the beginning of a month; `left` bounds the
months that may pass. -/
def splitMonths (year month : Nat) : Nat → Nat → Nat × Nat
  | 0, days => (month, days + 1)
  | left + 1, days =>
    let size := daysInMonth year month
    if days < size then (month, days + 1) else splitMonths year (month + 1) left (days - size)

/-- The year, the month and the day with a day number. -/
def dateOfDay (days : Nat) : Nat × Nat × Nat :=
  let (past, rest) := splitYears days
  (past + 1, splitMonths (past + 1) 1 11 rest)

/-- How many days lie between a Monday and a day: the first day of all is a Monday. -/
def weekday (days : Nat) : Nat :=
  days % 7

/-- The number of the Monday with which the first week of a year begins. -/
def weekStart (year : Nat) : Nat :=
  let first := daysBeforeYear year
  if weekday first ≤ 3 then first - weekday first else first - weekday first + 7

def weeksInYear (year : Nat) : Nat :=
  let first := weekday (daysBeforeYear year)
  if first = 3 ∨ (first = 2 ∧ isLeapYear year) then 53 else 52

end Time
end VectorTiles
