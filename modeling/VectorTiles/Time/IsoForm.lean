import VectorTiles.Time.Timestamp

/-!
# Reading timestamps

**Input.** The bytes of a text in the ISO form.

**Grammar.** A date is a year with a month and a day, or a year with a week and perhaps a day of it;
hyphens stand between the parts, or nowhere. A time of day may follow behind any one character. It
has an hour and perhaps minutes and seconds, with colons between them or none, and perhaps a
fraction, which begins with a point or a comma. The offset behind it is a `Z`, or a sign and
another time of day.

**Rules.**

* Only six digits of a fraction count.
* A colon may stand for the point, and without colons the fraction may follow the seconds at once.
* In front of an offset nothing but digits that are needed is looked at.
* An offset of zero seconds is zero, whatever its fraction.

**Results.**

* `Timestamp.ofText?`: the timestamp that a text names.
-/

namespace VectorTiles
namespace Timestamp

section Digits

/-- Whether a byte is a decimal digit. -/
def isDigit (b : UInt8) : Bool :=
  0x30 ≤ b && b ≤ 0x39

/-- The number that digits denote. -/
def digitsValue (bytes : List UInt8) : Nat :=
  bytes.foldl (fun n b => 10 * n + (b.toNat - 0x30)) 0

/-- A number of exactly `width` digits, and what stands behind it. -/
def readDigits? (width : Nat) (bytes : List UInt8) : Option (Nat × List UInt8) :=
  let digits := bytes.take width
  if digits.length = width ∧ digits.all isDigit then some (digitsValue digits, bytes.drop width)
  else none

/-- Whether nothing follows; a zero byte ends a text, too. -/
def isEnd (bytes : List UInt8) : Bool :=
  bytes.head?.all (· == 0)

end Digits

section Dates

/-- A byte that has to stand here if dates are written with hyphens. -/
def skipHyphen? (hasHyphens : Bool) (bytes : List UInt8) : Option (List UInt8) :=
  if hasHyphens then
    match bytes with
    | 0x2d :: rest => some rest
    | _ => none
  else some bytes

/-- The date of a day in a week of a year, if there is such a week. -/
def weekDate? (year week day : Nat) : Option (Nat × Nat × Nat) :=
  if 1 ≤ year ∧ 1 ≤ week ∧ week ≤ Time.weeksInYear year ∧ 1 ≤ day ∧ day ≤ 7 then
    some (Time.dateOfDay (Time.weekStart year + 7 * (week - 1) + (day - 1)))
  else none

def readDate? (bytes : List UInt8) : Option (Nat × Nat × Nat) := do
  let (year, rest) ← readDigits? 4 bytes
  let hasHyphens := rest.head? = some 0x2d
  let rest ← skipHyphen? hasHyphens rest
  match rest with
  | 0x57 :: rest =>
    let (week, rest) ← readDigits? 2 rest
    if rest.isEmpty then weekDate? year week 1
    else
      let (day, _) ← readDigits? 1 (← skipHyphen? hasHyphens rest)
      weekDate? year week day
  | rest =>
    let (month, rest) ← readDigits? 2 rest
    let (day, rest) ← readDigits? 2 (← skipHyphen? hasHyphens rest)
    guard rest.isEmpty
    return (year, month, day)

/-- The length of a date with a week that is written without hyphens. The digits of a time of day
come in pairs, so their number says whether one of them belongs to the date. -/
def plainWeekLength (bytes : List UInt8) : Nat :=
  let size := 7 + ((bytes.drop 7).takeWhile isDigit).length
  if size < 9 then size else if size % 2 = 0 then 7 else 8

/-- The length of a date with a week that is written with hyphens. A hyphen behind the week is taken
for the mark in front of a time of day when two digits follow. -/
def hyphenWeekLength (bytes : List UInt8) : Option Nat :=
  match bytes.drop 8 with
  | [0x2d] => none
  | 0x2d :: _ :: b :: _ => some (if isDigit b then 8 else 10)
  | 0x2d :: _ => some 10
  | _ => some 8

/-- The length of the date in front of a text. -/
def dateLength? (bytes : List UInt8) : Option Nat :=
  if bytes.length < 7 then none
  else if bytes.length = 7 then some 7
  else
    match bytes.drop 4 with
    | 0x2d :: 0x57 :: _ => hyphenWeekLength bytes
    | 0x2d :: _ => some 10
    | 0x57 :: _ => some (plainWeekLength bytes)
    | _ => some 8

end Dates

section Times

/-- A time of day, or the length of an offset. -/
structure Clock where
  hour : Nat
  minute : Nat
  second : Nat
  microsecond : Nat
  /-- Whether it is followed by something. -/
  isFollowed : Bool

def Clock.ofParts (parts : List Nat) (microsecond : Nat) (isFollowed : Bool) : Clock :=
  ⟨parts.getD 0 0, parts.getD 1 0, parts.getD 2 0, microsecond, isFollowed⟩

/-- Reads the digits of a fraction; `after` stands behind the text. -/
def readFraction? (parts : List Nat) (bytes after : List UInt8) : Option Clock := do
  let width := min 6 bytes.length
  let (value, rest) ← readDigits? width bytes
  return .ofParts parts (value * Nat.pow 10 (6 - width)) (!isEnd (rest.dropWhile isDigit ++ after))

/-- Reads a clock whose first `parts` are known and of which `missing` more may come. -/
def readParts? (hasColons : Option Bool) (parts : List Nat) (after : List UInt8) :
    Nat → List UInt8 → Option Clock
  | 0, bytes => readFraction? parts bytes after
  | missing + 1, bytes => do
    let (part, rest) ← readDigits? 2 bytes
    let parts := parts ++ [part]
    match rest with
    | [] => return .ofParts parts 0 (!isEnd after)
    | [c] => return .ofParts parts 0 (c != 0)
    | c :: more =>
      let hasColons := hasColons.getD (c == 0x3a)
      if hasColons && c == 0x3a then readParts? (some hasColons) parts after missing more
      else if c == 0x2e || c == 0x2c then readFraction? parts more after
      else if hasColons then none
      else readParts? (some hasColons) parts after missing rest

/-- The clock that bytes write in front of others. -/
def readClock? (bytes after : List UInt8) : Option Clock :=
  readParts? none [] after 3 bytes

def beginsOffset (b : UInt8) : Bool :=
  b == 0x2b || b == 0x2d || b == 0x5a

/-- The offset that bytes write, in microseconds. -/
def readOffset? : List UInt8 → Option (Option Int)
  | [] => some none
  | 0x5a :: rest => if isEnd rest then some (some 0) else none
  | sign :: rest => do
    let clock ← readClock? rest []
    guard (!clock.isFollowed)
    let seconds := clock.hour * 3600 + clock.minute * 60 + clock.second
    let n := Int.ofNat (if seconds = 0 then 0 else seconds * microsPerSecond + clock.microsecond)
    return some (if sign = 0x2d then -n else n)

/-- The time of day and the offset that bytes write. -/
def readTime? (bytes : List UInt8) : Option (Clock × Option Int) := do
  let (bytes, offset) := bytes.span (!beginsOffset ·)
  let clock ← readClock? bytes offset
  guard (!(offset.isEmpty && clock.isFollowed))
  return (clock, ← readOffset? offset)

/-- The bytes behind the first character. -/
def dropChar : List UInt8 → List UInt8
  | [] => []
  | b :: rest =>
    if b < 0x80 then rest
    else if b < 0xe0 then rest.drop 1
    else if b < 0xf0 then rest.drop 2
    else rest.drop 3

end Times

/-- The timestamp that a text in the ISO form names. -/
def ofText? (text : String) : Option Timestamp := do
  let bytes := text.toUTF8.toList
  let size ← dateLength? bytes
  let (year, month, day) ← readDate? (bytes.take size)
  let (clock, offset) ← match bytes.drop size with
    | [] => some (.ofParts [] 0 false, none)
    | rest => readTime? (dropChar rest)
  let t : Timestamp :=
    ⟨year, month, day, clock.hour, clock.minute, clock.second, clock.microsecond, offset⟩
  if t.isPossible then some t else none

end Timestamp
end VectorTiles
