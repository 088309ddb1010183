/-!
# Lenient UTF-8

**Rule.** A sequence of bytes that is no encoded character is replaced by U+FFFD. The replacement
covers the longest beginning of an encoded character that stands there, or a single byte.

**Results.**

* `decodeLenient`: the characters of any bytes.
* `encode`: the bytes of characters.
-/

namespace VectorTiles
namespace Text

/-- The character that stands for bytes which encode none. -/
def replacement : Char := Char.ofNat 0xfffd

/-- Whether a byte may follow a first byte directly. -/
def mayFollow (lead next : Nat) : Bool :=
  let low := if lead = 0xe0 then 0xa0 else if lead = 0xf0 then 0x90 else 0x80
  let high := if lead = 0xed then 0x9f else if lead = 0xf4 then 0x8f else 0xbf
  low ≤ next && next ≤ high

/-- Whether a byte may stand in the third or fourth place of a character. -/
def isContinuation (byte : Nat) : Bool :=
  0x80 ≤ byte && byte ≤ 0xbf

/-- How many bytes the character has that begins with a byte; zero when none does. -/
def encodedLength (lead : Nat) : Nat :=
  if lead < 0x80 then 1
  else if 0xc2 ≤ lead && lead ≤ 0xdf then 2
  else if 0xe0 ≤ lead && lead ≤ 0xef then 3
  else if 0xf0 ≤ lead && lead ≤ 0xf4 then 4
  else 0

/-- A character that has been read in part. -/
structure Partial where
  /-- The first byte, which restricts the second one. -/
  lead : Nat
  /-- Whether the second byte is still to come. -/
  isFresh : Bool
  /-- The bits read so far. -/
  value : Nat
  /-- How many bytes are still to come, at least one. -/
  missing : Nat

/-- What a byte begins where no character is open: characters, and perhaps an open one. -/
def beginWith (byte : Nat) : List Char × Option Partial :=
  match encodedLength byte with
  | 1 => ([Char.ofNat byte], none)
  | 2 => ([], some ⟨byte, true, byte - 0xc0, 1⟩)
  | 3 => ([], some ⟨byte, true, byte - 0xe0, 2⟩)
  | 4 => ([], some ⟨byte, true, byte - 0xf0, 3⟩)
  | _ => ([replacement], none)

/-- The characters of bytes behind a character that has been read in part. -/
def decodeFrom (part : Option Partial) : List UInt8 → List Char
  | [] => if part.isSome then [replacement] else []
  | b :: rest =>
    let byte := b.toNat
    match part with
    | none =>
      let (cs, part) := beginWith byte
      cs ++ decodeFrom part rest
    | some p =>
      if (if p.isFresh then mayFollow p.lead byte else isContinuation byte) then
        let value := p.value * 64 + (byte - 0x80)
        if p.missing = 1 then Char.ofNat value :: decodeFrom none rest
        else decodeFrom (some ⟨p.lead, false, value, p.missing - 1⟩) rest
      else
        let (cs, part) := beginWith byte
        replacement :: (cs ++ decodeFrom part rest)

def decodeLenient (bytes : List UInt8) : List Char :=
  decodeFrom none bytes

/-- The bytes of characters. -/
def encode (cs : List Char) : List UInt8 :=
  cs.flatMap String.utf8EncodeChar

end Text
end VectorTiles
