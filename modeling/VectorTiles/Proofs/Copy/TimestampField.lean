import VectorTiles.Proofs.Copy.RoundTrip
import VectorTiles.Proofs.Time.Succession
import Mathlib.Algebra.Group.Int.Defs

/-!
# Timestamps in a bulk load stream

A timestamp becomes a field of eight bytes, which holds a signed number.

**Rules.** The number says how many microseconds a clock in UTC has gone on since the epoch; a
reading without offset is taken as one of that clock. So readings with an offset are told apart up
to the instant that they name, and those without an offset are in the order of their numbers.

**Results.**

* `Writer.Adds`: a timestamp is written as the field of a number.
* `IsUtcOf`: what a clock in UTC shows when another clock shows a reading with an offset.
* `Writer.adds_iff`: which number that is, and when there is one.
* `Writer.timestamp_faithful`: the numbers are exact, in order, and those of instants.
-/

namespace VectorTiles

namespace Timestamp

/-- Where the numbers of timestamps begin. -/
def epoch : Timestamp :=
  ⟨2000, 1, 1, 0, 0, 0, 0, none⟩

/-- The reading without offset so many microseconds behind the epoch. -/
def ofMicros (n : Int) : Timestamp :=
  ofClock (n + Int.ofNat millennium).toNat

/-- The same reading on a clock without offset. -/
def withoutOffset (t : Timestamp) : Timestamp :=
  { t with offset := none }

/-- A reading in UTC of the instant that another reading names: the other clock is ahead of it by
its offset. -/
structure IsUtcOf (u t : Timestamp) : Prop where
  isReading : u.IsReading
  offset_eq : u.offset = none
  isBehind : IsBehind (t.offset.getD 0) u t.withoutOffset

section Instants

variable {t u : Timestamp}

theorem isReading_epoch : epoch.IsReading :=
  isReading_of_isPossible (by decide)

theorem clock_epoch : epoch.clock = millennium := by
  decide

theorem IsReading.withoutOffset (h : t.IsReading) : t.withoutOffset.IsReading :=
  ⟨h.isDate, h.year_le, h.hour_lt, h.minute_lt, h.second_lt, h.microsecond_lt⟩

/-- The reading in UTC of an instant is the one with the clock of the instant. -/
theorem isUtcOf_iff (h : t.IsReading) : u.IsUtcOf t ↔
    u.IsReading ∧ u.offset = none ∧ (u.clock : Int) = t.utcClock := by
  have hsame : t.withoutOffset.clock = t.clock := rfl
  have hclock (hu : u.IsReading) (hnone : u.offset = none) :
      IsBehind (t.offset.getD 0) u t.withoutOffset ↔ (u.clock : Int) = t.utcClock := by
    rw [isBehind_iff hu h.withoutOffset hnone, hsame, utcClock, Int.ofNat_eq_natCast]
    omega
  constructor
  · rintro ⟨hu, hnone, hbehind⟩
    exact ⟨hu, hnone, (hclock hu hnone).mp hbehind⟩
  · rintro ⟨hu, hnone, heq⟩
    exact ⟨hu, hnone, (hclock hu hnone).mpr heq⟩

/-- An instant has a reading in UTC if and only if its clock does not leave the years that exist. -/
theorem exists_isUtcOf_iff (h : t.IsReading) :
    (∃ u : Timestamp, u.IsUtcOf t) ↔ t.utcClock?.isSome = true := by
  constructor
  · rintro ⟨u, hu⟩
    obtain ⟨hreading, -, hclock⟩ := (isUtcOf_iff h).mp hu
    have hlt := hreading.clock_lt
    rw [utcClock?, if_pos]
    · rfl
    · rw [← hclock, Int.ofNat_eq_natCast]
      omega
  · intro hsome
    obtain ⟨hreading, hnone, hclock⟩ := inUtc_spec hsome
    refine ⟨t.inUtc, (isUtcOf_iff h).mpr ⟨hreading, hnone, ?_⟩⟩
    rw [← hclock, utcClock_of_naive hnone]

/-- Readings with a common reading in UTC are those with the same clock in UTC. -/
theorem exists_common_isUtcOf_iff {s : Timestamp} (hs : s.IsReading) (ht : t.IsReading)
    (hutc : t.utcClock?.isSome = true) :
    (∃ u : Timestamp, u.IsUtcOf s ∧ u.IsUtcOf t) ↔ s.utcClock = t.utcClock := by
  constructor
  · rintro ⟨u, hus, hut⟩
    obtain ⟨-, -, hclock⟩ := (isUtcOf_iff hs).mp hus
    obtain ⟨-, -, hclock'⟩ := (isUtcOf_iff ht).mp hut
    rw [← hclock, hclock']
  · intro heq
    obtain ⟨u, hu⟩ := (exists_isUtcOf_iff ht).mpr hutc
    obtain ⟨hreading, hnone, hclock⟩ := (isUtcOf_iff ht).mp hu
    exact ⟨u, (isUtcOf_iff hs).mpr ⟨hreading, hnone, hclock.trans heq.symm⟩, hu⟩

end Instants

end Timestamp

namespace Copy

open Timestamp

/-- A writer takes a timestamp for the field of a number: the length of eight bytes, and so many
bytes that are read as the number. -/
def Writer.Adds (writer : Writer) (t : Timestamp) (n : Int) : Prop :=
  ∃ payload, payload.length = 8 ∧ readLong? payload = some n ∧
    writer.write (.timestamp (some t)) =
      .ok ⟨writer.stream ++ (signed 4 8 ++ payload), writer.hasHeader⟩

section Fields

variable (writer : Writer) {s t u : Timestamp} {m n : Int}

theorem Writer.addition_timestamp (t : Timestamp) :
    writer.addition (.timestamp (some t)) = nullable encodeTimestamp (some t) :=
  rfl

theorem Writer.write_timestamp (h : t.utcClock?.isSome = true) :
    writer.write (.timestamp (some t)) =
      .ok ⟨writer.stream ++ (signed 4 8 ++ signed 8 (Value.micros t)), writer.hasHeader⟩ := by
  have hlength := length_signed 8 (Value.micros t)
  have hadded := nullable_some (encodeTimestamp_of_isSome h) (by rw [hlength]; decide)
  have hfield : fieldBytes (some (signed 8 (Value.micros t))) =
      signed 4 8 ++ signed 8 (Value.micros t) := by
    rw [fieldBytes, hlength]
    rfl
  rw [Writer.write, Writer.addition_timestamp, hadded, hfield]
  simp [Except.map, Writer.append]

/-- **A timestamp is written if it has a reading in UTC, and as the microseconds up to that.** -/
theorem Writer.adds_iff :
    writer.Adds t n ↔ t.utcClock?.isSome = true ∧ n = Value.micros t := by
  constructor
  · rintro ⟨payload, -, hread, hwrite⟩
    have hsome : t.utcClock?.isSome = true := by
      cases hadded : nullable encodeTimestamp (some t) with
      | error fault =>
          rw [Writer.write, Writer.addition_timestamp, hadded] at hwrite
          cases hwrite
      | ok bytes =>
          obtain ⟨_, hencode, -⟩ := nullable_eq_ok hadded
          exact isSome_of_encodeTimestamp hencode
    rw [writer.write_timestamp hsome, Except.ok.injEq, Writer.mk.injEq,
      List.append_cancel_left_eq, List.append_cancel_left_eq] at hwrite
    rw [← hwrite.1, readLong?_signed (fits_micros hsome)] at hread
    exact ⟨hsome, (Option.some.inj hread).symm⟩
  · rintro ⟨hsome, rfl⟩
    exact ⟨_, length_signed 8 _, readLong?_signed (fits_micros hsome), writer.write_timestamp hsome⟩

theorem micros_of_naive (h : t.offset = none) :
    Value.micros t = (t.clock : Int) - Int.ofNat millennium := by
  rw [Value.micros, utcClock_of_naive h]

/-- Every reading without offset is written, as the number of microseconds since the epoch. -/
theorem Writer.exists_adds_of_naive (ht : t.IsReading) (hnaive : t.offset = none) :
    ∃ n, writer.Adds t n ∧ IsBehind n epoch t ∧ -2 ^ 63 < n ∧ n < 2 ^ 63 - 1 ∧
      ofMicros n = t := by
  have hsome := isSome_utcClock?_of_naive ht hnaive
  have hmicros := micros_of_naive hnaive
  have hlt := ht.clock_lt
  have hend : clockEnd = 315537897600000000 := by decide
  have hmillennium : millennium = 63082281600000000 := by decide
  refine ⟨Value.micros t, (writer.adds_iff).mpr ⟨hsome, rfl⟩, ?_, ?_, ?_, ?_⟩
  · rw [isBehind_iff isReading_epoch ht hnaive.symm, clock_epoch, hmicros, Int.ofNat_eq_natCast]
    omega
  · rw [hmicros, Int.ofNat_eq_natCast]
    omega
  · rw [hmicros, Int.ofNat_eq_natCast]
    omega
  · rw [ofMicros, hmicros, Int.sub_add_cancel, Int.toNat_natCast, ofClock_clock ht, ← hnaive]

/-- Readings without offset are in the order of their numbers. -/
theorem Writer.adds_lt_iff (hs : s.IsReading) (ht : t.IsReading) (hnaive : s.offset = none)
    (hnaive' : t.offset = none) (hm : writer.Adds s m) (hn : writer.Adds t n) :
    m < n ↔ s.fields < t.fields := by
  obtain ⟨-, rfl⟩ := writer.adds_iff.mp hm
  obtain ⟨-, rfl⟩ := writer.adds_iff.mp hn
  rw [fields_lt_iff hs ht, micros_of_naive hnaive, micros_of_naive hnaive']
  omega

/-- A reading is written as the reading in UTC of its instant. -/
theorem Writer.write_of_isUtcOf (ht : t.IsReading) (hu : u.IsUtcOf t) :
    (∃ n, writer.Adds t n) ∧
      writer.write (.timestamp (some t)) = writer.write (.timestamp (some u)) := by
  obtain ⟨hreading, hnone, hclock⟩ := (isUtcOf_iff ht).mp hu
  have hmicros : Value.micros t = Value.micros u := by
    rw [Value.micros, Value.micros, utcClock_of_naive hnone, hclock]
  have hutc : t.utcClock?.isSome = true := (exists_isUtcOf_iff ht).mp ⟨u, hu⟩
  refine ⟨⟨_, writer.adds_iff.mpr ⟨hutc, rfl⟩⟩, ?_⟩
  rw [writer.write_timestamp hutc, hmicros,
    writer.write_timestamp (isSome_utcClock?_of_naive hreading hnone)]

/-- Two readings are written alike if and only if they name the same instant. -/
theorem Writer.write_eq_iff (hs : s.IsReading) (ht : t.IsReading)
    (hutc : ∃ u : Timestamp, u.IsUtcOf s) (hutc' : ∃ u : Timestamp, u.IsUtcOf t) :
    writer.write (.timestamp (some s)) = writer.write (.timestamp (some t)) ↔
      ∃ u : Timestamp, u.IsUtcOf s ∧ u.IsUtcOf t := by
  rw [exists_isUtcOf_iff hs] at hutc
  rw [exists_isUtcOf_iff ht] at hutc'
  rw [exists_common_isUtcOf_iff hs ht hutc']
  constructor
  · intro hwrite
    obtain ⟨payload, hlength, hread, hadded⟩ := writer.adds_iff.mpr ⟨hutc, rfl⟩
    rw [hwrite] at hadded
    obtain ⟨-, hmicros⟩ := writer.adds_iff.mp ⟨payload, hlength, hread, hadded⟩
    rw [Value.micros, Value.micros] at hmicros
    omega
  · intro hclock
    rw [writer.write_timestamp hutc, writer.write_timestamp hutc', Value.micros, Value.micros, hclock]

/-- **Timestamps are written exactly.** A reading without offset becomes a number in every case: the
distance from the epoch, which never comes near the ends of 64 bits, and from which the reading is
found again. The numbers of such readings have their order. A reading of another clock is written
as the one that a clock in UTC shows at the same instant, so readings are written alike if they name
the same instant, and only then. If UTC has no reading of the instant, writing fails, and the stream
stays as it is. -/
theorem Writer.timestamp_faithful (hs : s.IsReading) (ht : t.IsReading) :
    (t.offset = none → ∃ n, writer.Adds t n ∧ IsBehind n epoch t ∧ -2 ^ 63 < n ∧ n < 2 ^ 63 - 1 ∧
        ofMicros n = t) ∧
      (s.offset = none → t.offset = none → ∀ m n, writer.Adds s m → writer.Adds t n →
        (m < n ↔ s.fields < t.fields)) ∧
      (∀ u : Timestamp, u.IsUtcOf t → (∃ n, writer.Adds t n) ∧
        writer.write (.timestamp (some t)) = writer.write (.timestamp (some u))) ∧
      ((∃ u : Timestamp, u.IsUtcOf s) → (∃ u : Timestamp, u.IsUtcOf t) →
        (writer.write (.timestamp (some s)) = writer.write (.timestamp (some t)) ↔
          ∃ u : Timestamp, u.IsUtcOf s ∧ u.IsUtcOf t)) ∧
      ((¬ ∃ u : Timestamp, u.IsUtcOf t) →
        writer.write (.timestamp (some t)) = .error .noUtcReading ∧
          writer.tryAll [.timestamp (some t)] = ([.error .noUtcReading], writer)) := by
  refine ⟨writer.exists_adds_of_naive ht, ?_, ?_, writer.write_eq_iff hs ht, ?_⟩
  · intro hnaive hnaive' m n hm hn
    exact writer.adds_lt_iff hs ht hnaive hnaive' hm hn
  · intro u hu
    exact writer.write_of_isUtcOf ht hu
  · intro hnone
    rw [exists_isUtcOf_iff ht, Option.not_isSome_iff_eq_none] at hnone
    have hadded : writer.addition (.timestamp (some t)) = .error .noUtcReading :=
      nullable_of_error (encodeTimestamp_of_eq_none hnone)
    constructor
    · rw [Writer.write, hadded, Except.map]
    · simp only [Writer.tryAll, hadded]

/-- One second before the epoch. -/
def lastSecond : Timestamp :=
  ⟨1999, 12, 31, 23, 59, 59, 0, none⟩

/-- The epoch, on a clock two hours ahead of UTC. -/
def epochAhead : Timestamp :=
  ⟨2000, 1, 1, 2, 0, 0, 0, some 7200000000⟩

/-- Half an hour after the first midnight of all, on a clock one hour ahead of UTC. -/
def unreachable : Timestamp :=
  ⟨1, 1, 1, 0, 30, 0, 0, some 3600000000⟩

theorem isReading_lastSecond : lastSecond.IsReading :=
  isReading_of_isPossible (by decide)

theorem isReading_epochAhead : epochAhead.IsReading :=
  isReading_of_isPossible (by decide)

theorem isReading_unreachable : unreachable.IsReading :=
  isReading_of_isPossible (by decide)

theorem isUtcOf_epochAhead : epoch.IsUtcOf epochAhead :=
  (isUtcOf_iff isReading_epochAhead).mpr ⟨isReading_epoch, rfl, by decide⟩

theorem not_isUtcOf_unreachable : ¬ ∃ u : Timestamp, u.IsUtcOf unreachable := by
  rw [exists_isUtcOf_iff isReading_unreachable]
  decide

theorem Writer.timestamp_faithful_lastSecond :
    epochAhead.IsReading ∧ lastSecond.IsReading ∧ unreachable.IsReading ∧
      (∃ n, Writer.empty.Adds lastSecond n ∧ IsBehind n epoch lastSecond ∧
        ofMicros n = lastSecond) ∧
      epoch.IsUtcOf epochAhead ∧
      Writer.empty.write (.timestamp (some epochAhead)) =
        Writer.empty.write (.timestamp (some epoch)) ∧
      Writer.empty.write (.timestamp (some unreachable)) = .error .noUtcReading := by
  have hlast := Writer.empty.timestamp_faithful isReading_epochAhead isReading_lastSecond
  have hahead := Writer.empty.timestamp_faithful isReading_lastSecond isReading_epochAhead
  have hnone := Writer.empty.timestamp_faithful isReading_lastSecond isReading_unreachable
  obtain ⟨n, hadds, hbehind, -, -, hback⟩ := hlast.1 rfl
  exact ⟨isReading_epochAhead, isReading_lastSecond, isReading_unreachable,
    ⟨n, hadds, hbehind, hback⟩, isUtcOf_epochAhead, (hahead.2.2.1 _ isUtcOf_epochAhead).2,
    (hnone.2.2.2.2 not_isUtcOf_unreachable).1⟩

/-- A second is a million microseconds, and in front of the epoch the number is negative. -/
example : (Writer.empty.write (.timestamp (some lastSecond))).map Writer.stream =
    .ok (signed 4 8 ++ signed 8 (-1000000)) := by
  decide +kernel

end Fields

end Copy
end VectorTiles
