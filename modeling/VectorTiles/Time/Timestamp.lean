import VectorTiles.Text.Digits
import VectorTiles.Time.Calendar

/-!
# Timestamps

A date and a time of day, to the microsecond. With an offset from UTC it names an instant; without
one it is a local reading.

**Data.** Years from 1 to 9999. Instants are counted in microseconds from the beginning of the
year 1.

**Results.**

* `Timestamp.display`: the ISO form.
* `Timestamp.utcClock?`: the reading in UTC, counted in microseconds. It exists when its year does.
* `Timestamp.sinceMillennium?`: the same, counted from the beginning of the year 2000.
-/

namespace VectorTiles

/-- A reading of calendar and clock; the offset from UTC is given in microseconds. -/
structure Timestamp where
  year : Nat
  month : Nat
  day : Nat
  hour : Nat
  minute : Nat
  second : Nat
  microsecond : Nat
  offset : Option Int
  deriving DecidableEq, Repr

namespace Timestamp

section Counting

def microsPerSecond : Nat := 1000000

def secondsPerDay : Nat := 86400

/-- The reading in microseconds since the beginning of the year 1. -/
def clock (t : Timestamp) : Nat :=
  ((Time.dayNumber t.year t.month t.day * secondsPerDay) +
    (t.hour * 3600 + t.minute * 60 + t.second)) * microsPerSecond + t.microsecond

/-- Where the year 10000 begins. -/
def clockEnd : Nat :=
  Time.dayNumber 10000 1 1 * secondsPerDay * microsPerSecond

/-- Where the year 2000 begins. -/
def millennium : Nat :=
  Time.dayNumber 2000 1 1 * secondsPerDay * microsPerSecond

/-- The reading that a clock in UTC shows at the same instant, in microseconds since the beginning
of the year 1. A reading without offset is taken to be in UTC. -/
def utcClock (t : Timestamp) : Int :=
  Int.ofNat t.clock - t.offset.getD 0

/-- The reading in UTC, if its year is one of those that exist. -/
def utcClock? (t : Timestamp) : Option Int :=
  if 0 ≤ t.utcClock ∧ t.utcClock < Int.ofNat clockEnd then some t.utcClock else none

/-- Microseconds from the beginning of the year 2000 to the reading in UTC. -/
def sinceMillennium? (t : Timestamp) : Option Int :=
  t.utcClock?.map (· - Int.ofNat millennium)

end Counting

section Display

/-- A fraction of a second behind its point; it is left out when it is zero. -/
def displayFraction (microsecond : Nat) : String :=
  if microsecond = 0 then "" else "." ++ Text.padded 6 microsecond

/-- The reading without its offset. -/
def displayClock (t : Timestamp) : String :=
  Text.padded 4 t.year ++ "-" ++ Text.padded 2 t.month ++ "-" ++ Text.padded 2 t.day ++ "T" ++
    Text.padded 2 t.hour ++ ":" ++ Text.padded 2 t.minute ++ ":" ++ Text.padded 2 t.second ++
    displayFraction t.microsecond

/-- The hours and the minutes of an offset, with its sign. -/
def displayMinutes (offset : Int) : String :=
  let minutes := offset.natAbs / (60 * microsPerSecond)
  (if offset < 0 then "-" else "+") ++ Text.padded 2 (minutes / 60) ++ ":" ++
    Text.padded 2 (minutes % 60)

/-- An offset with its sign, in hours and minutes, and what is left of it when that is not zero. -/
def displayOffset (offset : Int) : String :=
  let left := offset.natAbs % (60 * microsPerSecond)
  displayMinutes offset ++
    (if left = 0 then ""
    else ":" ++ Text.padded 2 (left / microsPerSecond) ++ displayFraction (left % microsPerSecond))

/-- The ISO form. -/
def display (t : Timestamp) : String :=
  t.displayClock ++ (t.offset.map displayOffset).getD ""

/-- An offset as it stands in JSON: `Z` for zero, else its sign with hours and minutes. -/
def jsonOffset (offset : Int) : String :=
  if offset = 0 then "Z" else displayMinutes offset

/-- The form in JSON. -/
def jsonText (t : Timestamp) : String :=
  t.displayClock ++ (t.offset.map jsonOffset).getD ""

end Display

/-- Whether there is such a date and such a time of day. -/
def isPossible (t : Timestamp) : Bool :=
  decide (1 ≤ t.year) && decide (t.year ≤ 9999) && decide (1 ≤ t.month) && decide (t.month ≤ 12) &&
    decide (1 ≤ t.day) && decide (t.day ≤ Time.daysInMonth t.year t.month) &&
    decide (t.hour < 24) && decide (t.minute < 60) && decide (t.second < 60) &&
    decide (t.microsecond < microsPerSecond) &&
    decide ((t.offset.getD 0).natAbs < secondsPerDay * microsPerSecond)

end Timestamp
end VectorTiles
