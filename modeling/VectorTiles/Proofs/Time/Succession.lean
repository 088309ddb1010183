import VectorTiles.Proofs.Time.Clock
import Mathlib.Data.List.Lex
import Mathlib.Logic.Function.Iterate

/-!
# From one microsecond to the next

How a clock with a calendar goes on: its last part is counted up, and a part that is full begins
again and carries over. No number of days is needed for that, so distances between readings mean
something beside the numbers that they are computed with.

**Data.** The parts of a reading, from the year down to the microsecond, are compared in this order.

**Results.**

* `next`: the reading one microsecond later; `IsBehind`: a reading any number of microseconds later.
* `isBehind_iff`: the distance between two readings is the difference of their clocks.
* `fields_lt_iff`: the later reading has the greater parts.
-/

namespace VectorTiles
namespace Time

/-- The date behind a date. -/
def nextDate (year month day : Nat) : Nat × Nat × Nat :=
  if day < daysInMonth year month then (year, month, day + 1)
  else if month < 12 then (year, month + 1, 1)
  else (year + 1, 1, 1)

section Dates

variable {year month day : Nat}

theorem one_le_daysInMonth (year month : Nat) : 1 ≤ daysInMonth year month := by
  unfold daysInMonth
  split
  case h_1 => split_ifs <;> decide
  all_goals decide

theorem IsDate.nextDate (h : IsDate year month day) :
    IsDate (nextDate year month day).1 (nextDate year month day).2.1
      (nextDate year month day).2.2 := by
  have hyear := h.year_pos
  have hmonth := h.month_pos
  have hmonth' := h.month_le
  rw [Time.nextDate]
  split_ifs with hday hlast
  · exact ⟨hyear, hmonth, hmonth', Nat.le_add_left 1 day, hday⟩
  · exact ⟨hyear, Nat.le_add_left 1 month, hlast, Nat.le_refl 1, one_le_daysInMonth _ _⟩
  · exact ⟨Nat.le_add_left 1 year, Nat.le_refl 1, Nat.le_add_left 1 11, Nat.le_refl 1,
      one_le_daysInMonth _ _⟩

/-- The number of the date behind is the number behind. -/
theorem dayNumber_nextDate (h : IsDate year month day) :
    dayNumber (nextDate year month day).1 (nextDate year month day).2.1
      (nextDate year month day).2.2 = dayNumber year month day + 1 := by
  have hpos := h.day_pos
  have hle := h.day_le
  have hmonth := daysBeforeMonth_succ year h.month_pos
  rw [nextDate]
  split_ifs with hday hlast
  · simp only [dayNumber]
    omega
  · simp only [dayNumber]
    omega
  · obtain rfl : month = 12 := Nat.le_antisymm h.month_le (Nat.not_lt.mp hlast)
    have hyear := daysBeforeYear_succ h.year_pos
    have hfirst : daysBeforeMonth (year + 1) 1 = 0 := rfl
    rw [daysBeforeMonth_thirteen] at hmonth
    simp only [dayNumber]
    omega

end Dates

end Time

namespace Timestamp

open Time

/-- The reading one microsecond later. -/
def next (t : Timestamp) : Timestamp :=
  if t.microsecond + 1 < 1000000 then { t with microsecond := t.microsecond + 1 }
  else if t.second + 1 < 60 then { t with second := t.second + 1, microsecond := 0 }
  else if t.minute + 1 < 60 then { t with minute := t.minute + 1, second := 0, microsecond := 0 }
  else if t.hour + 1 < 24 then
    { t with hour := t.hour + 1, minute := 0, second := 0, microsecond := 0 }
  else
    let date := nextDate t.year t.month t.day
    ⟨date.1, date.2.1, date.2.2, 0, 0, 0, 0, t.offset⟩

/-- A reading is so many microseconds behind another one; if the number is negative, it is in front
of it. -/
def IsBehind (n : Int) (s t : Timestamp) : Prop :=
  next^[n.toNat] s = next^[(-n).toNat] t

/-- The parts of a reading without its offset, the greatest one first. -/
def fields (t : Timestamp) : List Nat :=
  [t.year, t.month, t.day, t.hour, t.minute, t.second, t.microsecond]

/-- The date and the time of day exist, in any year. -/
structure IsShown (t : Timestamp) : Prop where
  isDate : IsDate t.year t.month t.day
  hour_lt : t.hour < 24
  minute_lt : t.minute < 60
  second_lt : t.second < 60
  microsecond_lt : t.microsecond < 1000000

section Steps

variable {s t : Timestamp}

theorem IsReading.isShown (h : t.IsReading) : t.IsShown :=
  ⟨h.isDate, h.hour_lt, h.minute_lt, h.second_lt, h.microsecond_lt⟩

/-- A clock in front of the year 10000 shows a year of four digits. -/
theorem IsShown.isReading (h : t.IsShown) (hclock : t.clock < clockEnd) : t.IsReading where
  isDate := h.isDate
  year_le := by
    by_contra hyear
    have hlater : 10000 ≤ t.year := by omega
    have hmono := daysBeforeYear_mono (by decide) hlater
    have hle := daysBeforeYear_le_dayNumber t.year t.month t.day
    rw [clock_eq, clockEnd_eq] at hclock
    omega
  hour_lt := h.hour_lt
  minute_lt := h.minute_lt
  second_lt := h.second_lt
  microsecond_lt := h.microsecond_lt

theorem offset_next (t : Timestamp) : t.next.offset = t.offset := by
  rw [next]
  split_ifs <;> rfl

theorem IsShown.next (h : t.IsShown) : t.next.IsShown := by
  rw [Timestamp.next]
  split_ifs with hmicro hsecond hminute hhour
  · exact ⟨h.isDate, h.hour_lt, h.minute_lt, h.second_lt, hmicro⟩
  · exact ⟨h.isDate, h.hour_lt, h.minute_lt, hsecond, Nat.zero_lt_succ _⟩
  · exact ⟨h.isDate, h.hour_lt, hminute, Nat.zero_lt_succ _, Nat.zero_lt_succ _⟩
  · exact ⟨h.isDate, hhour, Nat.zero_lt_succ _, Nat.zero_lt_succ _, Nat.zero_lt_succ _⟩
  · exact ⟨h.isDate.nextDate, Nat.zero_lt_succ _, Nat.zero_lt_succ _, Nat.zero_lt_succ _,
      Nat.zero_lt_succ _⟩

/-- One step moves the clock by one, whatever is carried over. -/
theorem IsShown.clock_next (h : t.IsShown) : t.next.clock = t.clock + 1 := by
  have hhour := h.hour_lt
  have hminute := h.minute_lt
  have hsecond := h.second_lt
  have hmicro := h.microsecond_lt
  have hdate := dayNumber_nextDate h.isDate
  rw [Timestamp.next]
  split_ifs with hmicro' hsecond' hminute' hhour'
  all_goals
    simp only [clock_eq, daySecond]
    omega

theorem offset_iterate_next (n : Nat) (t : Timestamp) : (next^[n] t).offset = t.offset := by
  induction n with
  | zero => rfl
  | succ n ih => rw [Function.iterate_succ_apply', offset_next, ih]

theorem IsShown.iterate_next (h : t.IsShown) (n : Nat) :
    (Timestamp.next^[n] t).IsShown ∧ (Timestamp.next^[n] t).clock = t.clock + n := by
  induction n with
  | zero => exact ⟨h, (Nat.add_zero _).symm⟩
  | succ n ih =>
      obtain ⟨hshown, hclock⟩ := ih
      rw [Function.iterate_succ_apply']
      exact ⟨hshown.next, by rw [hshown.clock_next, hclock, Nat.add_assoc]⟩

/-- Readings with the same offset are told apart by their clocks. -/
theorem IsReading.eq_of_clock_eq (hs : s.IsReading) (ht : t.IsReading)
    (hoffset : s.offset = t.offset) (hclock : s.clock = t.clock) : s = t := by
  have hnaive := ofClock_clock hs
  rw [hclock, ofClock_clock ht] at hnaive
  cases s
  cases t
  simp_all

theorem iterate_next_eq_iff (hs : s.IsReading) (ht : t.IsReading) (hoffset : s.offset = t.offset)
    (n : Nat) : next^[n] s = t ↔ t.clock = s.clock + n := by
  obtain ⟨hshown, hclock⟩ := hs.isShown.iterate_next n
  constructor
  · rintro rfl
    exact hclock
  · intro heq
    have hlt : (next^[n] s).clock < clockEnd := by
      rw [hclock, ← heq]
      exact ht.clock_lt
    refine IsReading.eq_of_clock_eq (hshown.isReading hlt) ht ?_ (hclock.trans heq.symm)
    rw [offset_iterate_next, hoffset]

/-- **The distance between two readings is the difference of their clocks.** -/
theorem isBehind_iff (hs : s.IsReading) (ht : t.IsReading) (hoffset : s.offset = t.offset)
    (n : Int) : IsBehind n s t ↔ (t.clock : Int) = s.clock + n := by
  rcases Int.le_total 0 n with hn | hn
  · have hnone : (-n).toNat = 0 := by omega
    rw [IsBehind, hnone, Function.iterate_zero_apply, iterate_next_eq_iff hs ht hoffset]
    omega
  · have hnone : n.toNat = 0 := by omega
    rw [IsBehind, hnone, Function.iterate_zero_apply, eq_comm,
      iterate_next_eq_iff ht hs hoffset.symm]
    omega

end Steps

section Order

variable {s t : Timestamp}

/-- The first part that is greater makes the clock greater. -/
theorem IsReading.clock_lt_of_fields_lt (hs : s.IsReading) (h : s.fields < t.fields) :
    s.clock < t.clock := by
  have hday := hs.daySecond_lt
  have hmicro := hs.microsecond_lt
  have hnumber : dayNumber s.year s.month s.day < dayNumber t.year t.month t.day →
      s.clock < t.clock := by
    intro hlt
    rw [clock_eq, clock_eq]
    omega
  simp only [fields, List.cons_lt_cons_iff, List.not_lt_nil, and_false, or_false] at h
  have hpos := hs.isDate.day_pos
  have hle := hs.isDate.day_le
  rcases h with hyear | ⟨hyear, hmonth | ⟨hmonth, hlast⟩⟩
  · have hlt := dayNumber_lt_daysBeforeYear hs.isDate hyear
    have hle' := daysBeforeYear_le_dayNumber t.year t.month t.day
    exact hnumber (Nat.lt_of_lt_of_le hlt hle')
  · have hsucc := daysBeforeMonth_succ s.year hs.isDate.month_pos
    have hmono := daysBeforeMonth_mono s.year (Nat.le_add_left 1 s.month) (Nat.succ_le_of_lt hmonth)
    refine hnumber ?_
    rw [dayNumber, dayNumber, ← hyear]
    omega
  · rcases hlast with hday' | ⟨hday', hclock⟩
    · refine hnumber ?_
      rw [dayNumber, dayNumber, ← hyear, ← hmonth]
      omega
    · have hminute := hs.minute_lt
      have hsecond := hs.second_lt
      rw [clock_eq, clock_eq, hyear, hmonth, hday', daySecond, daySecond]
      omega

/-- **The later of two readings has the greater parts**, compared from the year on. -/
theorem fields_lt_iff (hs : s.IsReading) (ht : t.IsReading) :
    s.fields < t.fields ↔ s.clock < t.clock := by
  refine ⟨hs.clock_lt_of_fields_lt, fun hclock => ?_⟩
  rcases lt_trichotomy s.fields t.fields with hlt | heq | hgt
  · exact hlt
  · simp only [fields, List.cons.injEq, and_true] at heq
    obtain ⟨hyear, hmonth, hday, hhour, hminute, hsecond, hmicro⟩ := heq
    rw [clock_eq, clock_eq, daySecond, daySecond, hyear, hmonth, hday, hhour, hminute, hsecond,
      hmicro] at hclock
    exact absurd hclock (Nat.lt_irrefl _)
  · have hback := ht.clock_lt_of_fields_lt hgt
    omega

end Order

end Timestamp
end VectorTiles
