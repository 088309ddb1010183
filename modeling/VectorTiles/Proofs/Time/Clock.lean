import VectorTiles.Proofs.Time.Calendar
import VectorTiles.Time.Timestamp

/-!
# Readings and their clocks

**Data.** A reading without offset is one of local time. It is possible if its date and its time of
day exist and its year has four digits.

**Results.**

* `ofClock`: the reading without offset that a number of microseconds leads to.
* `ofClock_clock`, `clock_ofClock`: readings and clocks determine each other.
* `inUtc`: the reading in UTC of an instant.
-/

namespace VectorTiles
namespace Timestamp

open Time

/-- The reading without offset so many microseconds behind the beginning of the year 1. -/
def ofClock (clock : Nat) : Timestamp :=
  let seconds := clock / microsPerSecond
  let (year, month, day) := dateOfDay (seconds / secondsPerDay)
  let left := seconds % secondsPerDay
  ⟨year, month, day, left / 3600, left % 3600 / 60, left % 60, clock % microsPerSecond, none⟩

/-- The reading without offset that a clock in UTC shows at the same instant. -/
def inUtc (t : Timestamp) : Timestamp :=
  ofClock t.utcClock.toNat

/-- The date and the time of day exist, and the year has four digits at most. -/
structure IsReading (t : Timestamp) : Prop where
  isDate : IsDate t.year t.month t.day
  year_le : t.year ≤ 9999
  hour_lt : t.hour < 24
  minute_lt : t.minute < 60
  second_lt : t.second < 60
  microsecond_lt : t.microsecond < 1000000

theorem isReading_of_isPossible {t : Timestamp} (h : t.isPossible = true) : t.IsReading := by
  simp only [isPossible, Bool.and_eq_true, decide_eq_true_eq] at h
  obtain ⟨⟨⟨⟨⟨⟨⟨⟨⟨⟨hyear, hyear'⟩, hmonth⟩, hmonth'⟩, hday⟩, hday'⟩, hhour⟩, hminute⟩, hsecond⟩,
    hmicro⟩, -⟩ := h
  exact ⟨⟨hyear, hmonth, hmonth', hday, hday'⟩, hyear', hhour, hminute, hsecond, hmicro⟩

section Clocks

variable {t : Timestamp}

/-- The seconds since the beginning of the day. -/
def daySecond (t : Timestamp) : Nat :=
  t.hour * 3600 + t.minute * 60 + t.second

theorem clock_eq (t : Timestamp) : t.clock =
    (dayNumber t.year t.month t.day * 86400 + t.daySecond) * 1000000 + t.microsecond :=
  rfl

theorem IsReading.daySecond_lt (h : t.IsReading) : t.daySecond < 86400 := by
  have := h.hour_lt
  have := h.minute_lt
  have := h.second_lt
  rw [daySecond]
  omega

theorem ofClock_eq {clock year month day : Nat}
    (h : dateOfDay (clock / 1000000 / 86400) = (year, month, day)) :
    ofClock clock = ⟨year, month, day, clock / 1000000 % 86400 / 3600,
      clock / 1000000 % 86400 % 3600 / 60, clock / 1000000 % 86400 % 60, clock % 1000000, none⟩ := by
  simp only [ofClock, microsPerSecond, secondsPerDay, h]

/-- A reading without offset is found from its clock. -/
theorem ofClock_clock (h : t.IsReading) : ofClock t.clock = { t with offset := none } := by
  have hday := h.daySecond_lt
  have hmicro := h.microsecond_lt
  have hminute := h.minute_lt
  have hsecond := h.second_lt
  have hclock := clock_eq t
  have hdays : t.clock / 1000000 / 86400 = dayNumber t.year t.month t.day := by omega
  have hleft : t.clock / 1000000 % 86400 = t.daySecond := by omega
  have hmicros : t.clock % 1000000 = t.microsecond := by omega
  have hdate : dateOfDay (t.clock / 1000000 / 86400) = (t.year, t.month, t.day) := by
    rw [hdays, dateOfDay_dayNumber h.isDate]
  have hhours : t.daySecond / 3600 = t.hour := by
    rw [daySecond]
    omega
  have hminutes : t.daySecond % 3600 / 60 = t.minute := by
    rw [daySecond]
    omega
  have hseconds : t.daySecond % 60 = t.second := by
    rw [daySecond]
    omega
  rw [ofClock_eq hdate, hleft, hmicros, hhours, hminutes, hseconds]

theorem ofClock_spec (clock : Nat) : IsDate (ofClock clock).year (ofClock clock).month
    (ofClock clock).day ∧ dayNumber (ofClock clock).year (ofClock clock).month (ofClock clock).day =
      clock / 1000000 / 86400 := by
  obtain ⟨year, month, day, heq, hdate, hnumber⟩ := dateOfDay_spec (clock / 1000000 / 86400)
  simp only [ofClock, microsPerSecond, secondsPerDay, heq]
  exact ⟨hdate, hnumber⟩

theorem clock_ofClock (clock : Nat) : (ofClock clock).clock = clock := by
  have hseconds : (ofClock clock).daySecond = clock / 1000000 % 86400 := by
    simp only [daySecond, ofClock, microsPerSecond, secondsPerDay]
    omega
  have hmicro : (ofClock clock).microsecond = clock % 1000000 := rfl
  rw [clock_eq, (ofClock_spec clock).2, hseconds, hmicro]
  omega

theorem clockEnd_eq : clockEnd = daysBeforeYear 10000 * 86400 * 1000000 := by
  decide

theorem isReading_ofClock {clock : Nat} (h : clock < clockEnd) : (ofClock clock).IsReading where
  isDate := (ofClock_spec clock).1
  year_le := by
    by_contra hyear
    have hlater : 10000 ≤ (ofClock clock).year := by omega
    have hmono := daysBeforeYear_mono (by decide) hlater
    have hle := daysBeforeYear_le_dayNumber (ofClock clock).year (ofClock clock).month
      (ofClock clock).day
    rw [(ofClock_spec clock).2] at hle
    rw [clockEnd_eq] at h
    omega
  hour_lt := by
    simp only [ofClock, microsPerSecond, secondsPerDay]
    omega
  minute_lt := by
    simp only [ofClock, microsPerSecond, secondsPerDay]
    omega
  second_lt := by
    simp only [ofClock, microsPerSecond, secondsPerDay]
    omega
  microsecond_lt := by
    simp only [ofClock, microsPerSecond, secondsPerDay]
    omega

/-- The clock of a reading ends before the year 10000. -/
theorem IsReading.clock_lt (h : t.IsReading) : t.clock < clockEnd := by
  have hlater : t.year < 10000 := Nat.lt_succ_of_le h.year_le
  have hyear := dayNumber_lt_daysBeforeYear h.isDate hlater
  have hday := h.daySecond_lt
  have hmicro := h.microsecond_lt
  rw [clock_eq, clockEnd_eq]
  omega

end Clocks

section Utc

variable {t : Timestamp}

theorem utcClock_of_naive (h : t.offset = none) : t.utcClock = t.clock := by
  simp [utcClock, h]

/-- A reading without offset has a reading in UTC, which is itself. -/
theorem isSome_utcClock?_of_naive (h : t.IsReading) (hnaive : t.offset = none) :
    t.utcClock?.isSome = true := by
  have hlt := h.clock_lt
  rw [utcClock?, utcClock_of_naive hnaive, if_pos]
  · rfl
  · simp only [Int.ofNat_eq_natCast]
    omega

theorem inUtc_of_naive (h : t.IsReading) (hnaive : t.offset = none) : t.inUtc = t := by
  rw [inUtc, utcClock_of_naive hnaive, Int.toNat_natCast, ofClock_clock h, ← hnaive]

/-- The reading in UTC is possible, has no offset and names the same instant. -/
theorem inUtc_spec (h : t.utcClock?.isSome = true) :
    t.inUtc.IsReading ∧ t.inUtc.offset = none ∧ t.inUtc.utcClock = t.utcClock := by
  rw [utcClock?] at h
  split_ifs at h with hclock
  · obtain ⟨hpos, hend⟩ := hclock
    simp only [Int.ofNat_eq_natCast] at hend
    refine ⟨isReading_ofClock (by omega), rfl, ?_⟩
    have hnone : (ofClock t.utcClock.toNat).offset = none := rfl
    rw [inUtc, utcClock_of_naive hnone, clock_ofClock]
    omega
  · simp at h

end Utc

end Timestamp
end VectorTiles
