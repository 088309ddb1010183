/-!
# Punycode

A label of a domain name is written in ASCII: first its characters of ASCII with a hyphen behind
them, if there are any, then where the other characters stand.

**Algorithm.** The other characters are inserted in the order of their numbers. Each insertion is
told by its distance from the one before, when all places of all characters in increasing order are
passed through one after the other. A distance is a numeral of base 36, least digit first, whose
last digit is below a threshold. The thresholds follow the sizes of the distances so far.

**Results.**

* `Punycode.encode`: the form of a label in ASCII.
-/

namespace VectorTiles
namespace Punycode

def digit (n : Nat) : Char :=
  if n < 26 then Char.ofNat ('a'.toNat + n) else Char.ofNat ('0'.toNat + (n - 26))

def threshold (bias place : Nat) : Nat :=
  max 1 (min 26 (place - bias))

theorem threshold_pos (bias place : Nat) : 1 ≤ threshold bias place :=
  Nat.le_max_left _ _

def numeral (bias place distance : Nat) : List Char :=
  let least := threshold bias place
  if distance < least then [digit distance]
  else
    digit (least + (distance - least) % (36 - least)) ::
      numeral bias (place + 36) ((distance - least) / (36 - least))
termination_by distance
decreasing_by
  have := threshold_pos bias place
  calc (distance - threshold bias place) / (36 - threshold bias place)
      ≤ distance - threshold bias place := Nat.div_le_self _ _
    _ < distance := by omega

/-- Halves the range of a distance until it is small; the second part counts the places passed. -/
def shrink (distance place : Nat) : Nat × Nat :=
  if 455 < distance then shrink (distance / 35) (place + 36) else (distance, place)
termination_by distance
decreasing_by omega

/-- The bias behind a distance, when so many characters are in place. -/
def adapted (distance count : Nat) (isFirst : Bool) : Nat :=
  let scaled := if isFirst then distance / 700 else distance / 2
  let (small, place) := shrink (scaled + scaled / count) 0
  place + 36 * small / (small + 38)

/-- What has been written, and what the next distance depends on. -/
structure State where
  written : List Char
  distance : Nat
  bias : Nat
  count : Nat

/-- Passes a character of the label while the characters with the number `n` are inserted. -/
def pass (basic n : Nat) (state : State) (c : Char) : State :=
  if c.toNat < n then { state with distance := state.distance + 1 }
  else if c.toNat = n then
    ⟨state.written ++ numeral state.bias 36 state.distance, 0,
      adapted state.distance (state.count + 1) (state.count = basic), state.count + 1⟩
  else state

/-- Inserts the characters with the given numbers; `next` is the first number that has not been
passed. -/
def insertAll (label : List Char) (basic : Nat) : Nat → List Nat → State → State
  | _, [], state => state
  | next, n :: numbers, state =>
    let skipped := { state with distance := state.distance + (n - next) * (state.count + 1) }
    let state := label.foldl (pass basic n) skipped
    insertAll label basic (n + 1) numbers { state with distance := state.distance + 1 }

/-- Puts a number at its place among numbers in increasing order, unless it is there already. -/
def insertNumber (n : Nat) : List Nat → List Nat
  | [] => [n]
  | m :: rest => if n < m then n :: m :: rest else if n = m then m :: rest
    else m :: insertNumber n rest

/-- The form of a label in ASCII. -/
def encode (label : List Char) : List Char :=
  let basic := label.filter (·.toNat < 128)
  let numbers := ((label.map Char.toNat).filter (128 ≤ ·)).foldr insertNumber []
  let state := insertAll label basic.length 128 numbers ⟨[], 0, 72, basic.length⟩
  basic ++ (if basic.isEmpty then [] else ['-']) ++ state.written

end Punycode
end VectorTiles
