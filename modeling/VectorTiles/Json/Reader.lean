import VectorTiles.Json.Basic
import VectorTiles.Text.Digits

/-!
# Reading JSON text

**Input.** The characters, or the UTF-8 bytes, of a document.

**Grammar.** The standard one, with three additions and three bounds. `NaN`, `Infinity` and
`-Infinity` are numbers. Arrays and objects may be nested, and whole parts of numerals may be long,
only up to given limits. Whether a surrogate may be written outside a pair depends on them, too; it
then stands for U+FFFD. There are no comments, no trailing commas, and no byte order mark.

**Algorithm.** Recursive descent. Every step of the recursion is paid from a fuel which is twice
the length of the text, and each character pays for the two steps that it can start.

**Results.**

* `Json.read`: the value of a text.
* `Json.readBytes`: the value of an encoded text.
-/

namespace VectorTiles
namespace Json

/-- Bounds on the texts that are read. -/
structure Limits where
  /-- How deep arrays and objects may be nested. -/
  depth : Nat
  /-- How many digits a whole number may have. -/
  integer : Nat
  /-- How many digits the whole part of another number may have, if that is bounded. -/
  wholePart : Option Nat
  /-- Whether a surrogate may be written outside a pair. -/
  hasLoneSurrogates : Bool

/-- Why a text has no value. -/
inductive ReadFault where
  | malformed
  /-- Arrays and objects are nested too deep. -/
  | tooDeep
  deriving DecidableEq, Repr

/-- What was read, or that the text is malformed. -/
def orMalformed {α : Type} : Option α → Except ReadFault α
  | some a => .ok a
  | none => .error .malformed

/-- The limits of documents that come from outside. -/
def Limits.document : Limits := ⟨200, 4300, some 4300, false⟩

/-- The limits of values that the operator of the service writes. -/
def Limits.setting : Limits := ⟨970, 4300, none, true⟩

section Written

mutual

/-- How deep arrays and objects are nested in a value. -/
def depth : Json → Nat
  | .array items => depthOfItems items + 1
  | .object members => depthOfMembers members + 1
  | _ => 0

def depthOfItems : List Json → Nat
  | [] => 0
  | item :: items => max (depth item) (depthOfItems items)

def depthOfMembers : List (String × Json) → Nat
  | [] => 0
  | (_, value) :: members => max (depth value) (depthOfMembers members)

end

mutual

/-- The length of the longest numeral of a whole number in a value. -/
def numeralLength : Json → Nat
  | .int n => (toString n.natAbs).length
  | .array items => numeralLengthOfItems items
  | .object members => numeralLengthOfMembers members
  | _ => 0

def numeralLengthOfItems : List Json → Nat
  | [] => 0
  | item :: items => max (numeralLength item) (numeralLengthOfItems items)

def numeralLengthOfMembers : List (String × Json) → Nat
  | [] => 0
  | (_, value) :: members => max (numeralLength value) (numeralLengthOfMembers members)

end

/-- Whether a text with this value can be read within the limits. -/
def isWithin (limits : Limits) (value : Json) : Bool :=
  depth value ≤ limits.depth && numeralLength value ≤ limits.integer

end Written

section Lexical

def isSpace (c : Char) : Bool :=
  c == ' ' || c == '\t' || c == '\n' || c == '\r'

def skipSpace (cs : List Char) : List Char :=
  cs.dropWhile isSpace

/-- The rest of the text after a given word. -/
def after? (word : List Char) (cs : List Char) : Option (List Char) :=
  if word.isPrefixOf cs then some (cs.drop word.length) else none

/-- The character of a one-letter escape. -/
def escaped? : Char → Option Char
  | '"' => some '"'
  | '\\' => some '\\'
  | '/' => some '/'
  | 'b' => some '\x08'
  | 'f' => some '\x0c'
  | 'n' => some '\n'
  | 'r' => some '\r'
  | 't' => some '\t'
  | _ => none

/-- The number written with four hexadecimal digits. -/
def fourDigits? (a b c d : Char) : Option Nat := do
  let a ← Text.hexValue? a
  let b ← Text.hexValue? b
  let c ← Text.hexValue? c
  let d ← Text.hexValue? d
  return ((16 * a + b) * 16 + c) * 16 + d

def isHighSurrogate (n : Nat) : Bool := 0xd800 ≤ n && n < 0xdc00

def isLowSurrogate (n : Nat) : Bool := 0xdc00 ≤ n && n < 0xe000

/-- The character of a surrogate pair. -/
def pairedChar (high low : Nat) : Char :=
  Char.ofNat (0x10000 + (high - 0xd800) * 0x400 + (low - 0xdc00))

/-- The character that a surrogate outside a pair stands for, if there may be one. -/
def loneSurrogate? (limits : Limits) : Option Char :=
  if limits.hasLoneSurrogates then some (Char.ofNat 0xfffd) else none

/-- The character of four hexadecimal digits that are not the first half of a pair. -/
def plainChar? (limits : Limits) (n : Nat) : Option Char :=
  if isHighSurrogate n || isLowSurrogate n then loneSurrogate? limits else some (Char.ofNat n)

/-- Reads a string up to its closing quote; the characters read so far come last first. -/
def readString? (limits : Limits) (read : List Char) : List Char → Option (String × List Char)
  | [] => none
  | '"' :: rest => some (String.ofList read.reverse, rest)
  | '\\' :: 'u' :: a :: b :: c :: d :: '\\' :: 'u' :: a' :: b' :: c' :: d' :: rest =>
    match fourDigits? a b c d, fourDigits? a' b' c' d' with
    | some n, some m =>
      if isHighSurrogate n && isLowSurrogate m then
        readString? limits (pairedChar n m :: read) rest
      else
        match plainChar? limits n with
        | none => none
        | some e => readString? limits (e :: read) ('\\' :: 'u' :: a' :: b' :: c' :: d' :: rest)
    | _, _ => none
  | '\\' :: 'u' :: a :: b :: c :: d :: rest =>
    match fourDigits? a b c d >>= plainChar? limits with
    | none => none
    | some e => readString? limits (e :: read) rest
  | '\\' :: c :: rest =>
    match escaped? c with
    | none => none
    | some e => readString? limits (e :: read) rest
  | c :: rest => if c.toNat < 0x20 then none else readString? limits (c :: read) rest

/-- Splits a sign off. -/
def readMinus : List Char → Bool × List Char
  | '-' :: rest => (true, rest)
  | cs => (false, cs)

/-- The fraction digits after a point, if there is a point. -/
def readFraction? : List Char → Option (Option (List Char) × List Char)
  | '.' :: rest =>
    let (digits, rest) := rest.span Char.isDigit
    if digits.isEmpty then none else some (some digits, rest)
  | cs => some (none, cs)

/-- The exponent after its mark, if there is a mark. -/
def readExponent? : List Char → Option (Option Int × List Char)
  | [] => some (none, [])
  | mark :: rest =>
    if mark == 'e' || mark == 'E' then
      let (negative, rest) := match rest with
        | '-' :: rest => (true, rest)
        | '+' :: rest => (false, rest)
        | rest => (false, rest)
      let (digits, rest) := rest.span Char.isDigit
      if digits.isEmpty then none
      else
        let n := Int.ofNat (Text.decimalValue digits)
        some (some (if negative then -n else n), rest)
    else some (none, mark :: rest)

def readNumber? (limits : Limits) (cs : List Char) : Option (Json × List Char) := do
  let (negative, cs) := readMinus cs
  if let some rest := after? "Infinity".toList cs then
    return (.float (Binary64.infinity negative), rest)
  let (whole, rest) := cs.span Char.isDigit
  guard (whole ≠ [])
  guard (whole.head? ≠ some '0' ∨ whole.length = 1)
  let (fraction, rest) ← readFraction? rest
  let (exponent, rest) ← readExponent? rest
  match fraction, exponent with
  | none, none =>
    guard (whole.length ≤ limits.integer)
    let n := Int.ofNat (Text.decimalValue whole)
    return (.int (if negative then -n else n), rest)
  | fraction, exponent =>
    guard (limits.wholePart.all (whole.length ≤ ·))
    let digits := fraction.getD []
    let power := exponent.getD 0 - Int.ofNat digits.length
    return (.float (Binary64.ofDecimal negative (Text.decimalValue (whole ++ digits)) power), rest)

end Lexical

section Values

mutual

/-- Reads a value that may hold `depth` levels of arrays and objects. -/
def readValue (limits : Limits) : Nat → Nat → List Char → Except ReadFault (Json × List Char)
  | 0, _, _ => .error .malformed
  | fuel + 1, depth, cs =>
    match skipSpace cs with
    | [] => .error .malformed
    | '"' :: rest =>
      orMalformed ((readString? limits [] rest).map fun (s, rest) => (.string s, rest))
    | '[' :: rest =>
      match depth with
      | 0 => .error .tooDeep
      | depth + 1 =>
        match skipSpace rest with
        | ']' :: rest => .ok (.array [], rest)
        | rest => readItems limits fuel depth [] rest
    | '{' :: rest =>
      match depth with
      | 0 => .error .tooDeep
      | depth + 1 =>
        match skipSpace rest with
        | '}' :: rest => .ok (.object [], rest)
        | rest => readMembers limits fuel depth [] rest
    | 't' :: rest => orMalformed ((after? "rue".toList rest).map fun rest => (.bool true, rest))
    | 'f' :: rest => orMalformed ((after? "alse".toList rest).map fun rest => (.bool false, rest))
    | 'n' :: rest => orMalformed ((after? "ull".toList rest).map fun rest => (.null, rest))
    | 'N' :: rest =>
      orMalformed ((after? "aN".toList rest).map fun rest => (.float Binary64.nan, rest))
    | cs => orMalformed (readNumber? limits cs)

/-- Reads the items of an array from the first one that is still missing; the items read so far
come last first. -/
def readItems (limits : Limits) :
    Nat → Nat → List Json → List Char → Except ReadFault (Json × List Char)
  | 0, _, _, _ => .error .malformed
  | fuel + 1, depth, read, cs =>
    match readValue limits fuel depth cs with
    | .error fault => .error fault
    | .ok (item, rest) =>
      match skipSpace rest with
      | ',' :: rest => readItems limits fuel depth (item :: read) rest
      | ']' :: rest => .ok (.array (item :: read).reverse, rest)
      | _ => .error .malformed

/-- Reads the members of an object from the first one that is still missing. -/
def readMembers (limits : Limits) :
    Nat → Nat → List (String × Json) → List Char → Except ReadFault (Json × List Char)
  | 0, _, _, _ => .error .malformed
  | fuel + 1, depth, read, cs =>
    match skipSpace cs with
    | '"' :: rest =>
      match readString? limits [] rest with
      | none => .error .malformed
      | some (name, rest) =>
        match skipSpace rest with
        | ':' :: rest =>
          match readValue limits fuel depth rest with
          | .error fault => .error fault
          | .ok (value, rest) =>
            match skipSpace rest with
            | ',' :: rest => readMembers limits fuel depth (put name value read) rest
            | '}' :: rest => .ok (.object (put name value read), rest)
            | _ => .error .malformed
        | _ => .error .malformed
    | _ => .error .malformed

end

/-- The value of a text, which has nothing but space around it. -/
def read (limits : Limits) (text : String) : Except ReadFault Json :=
  let cs := text.toList
  match readValue limits (2 * cs.length + 2) limits.depth cs with
  | .ok (value, rest) => if (skipSpace rest).isEmpty then .ok value else .error .malformed
  | .error fault => .error fault

/-- The value of the text that the bytes encode. -/
def readBytes (limits : Limits) (bytes : List UInt8) : Except ReadFault Json :=
  match String.fromUTF8? ⟨bytes.toArray⟩ with
  | some text => read limits text
  | none => .error .malformed

end Values

end Json
end VectorTiles
