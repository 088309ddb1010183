import VectorTiles.Json.Basic
import VectorTiles.Schema.Issue
import VectorTiles.Text.Blank
import VectorTiles.Text.Digits

/-!
# Lenient conversions

A document may spell a value in more than one way. This module turns JSON values into the values
that a schema asks for.

**Rules.**

* A whole number may be a numeral, a floating point number without fraction and of less than 64
  bits, a truth value, or a text. In a text, white space at both ends, a sign, leading zeros, a
  fraction of zeros and single underscores between digits are allowed; the minus sign may also
  stand behind the leading zeros.
* A number may be any numeral, a truth value, or a text in decimal notation, with the words for
  infinity and for NaN in any case.
* A string must be a string, an array an array, an object an object.

**Results.**

* `toInteger`, `toNumber`, `toText`, `toOptional`: single values.
* `toItems`, `toList`, `toPlaces` with `place`: arrays of any and of a fixed length.
* `toMembers`, `toRecord`, with `required` and `optional`: objects, and a member of a record under
  one of its names.
-/

namespace VectorTiles
namespace Schema

section Integers

/-- How many digits a numeral that is read from a text may have. -/
def numeralLimit : Nat := 4300

/-- The text without a plus sign in front. A sign after the plus sign stays an error. -/
def withoutPlus? : List Char → Option (List Char)
  | '+' :: '-' :: _ => none
  | '+' :: rest => some rest
  | cs => some cs

/-- Splits a minus sign off. -/
def splitMinus : List Char → Bool × List Char
  | '-' :: rest => (true, rest)
  | cs => (false, cs)

/-- Drops zeros and underscores up to another digit or a minus sign, or up to the point, before
which one character is kept; the last character always stays. -/
def withoutZeros? (previous : Char) : List Char → Option (List Char)
  | [] => some [previous]
  | c :: rest =>
    if c == '0' || c == '_' then withoutZeros? c rest
    else if c == '.' then some (previous :: c :: rest)
    else if c.isDigit || c == '-' then some (c :: rest)
    else none

/-- The text without leading zeros. It has to begin with a digit. -/
def withoutLeadingZeros? : List Char → Option (List Char)
  | '0' :: rest => withoutZeros? '0' rest
  | c :: rest => if c.isDigit then some (c :: rest) else none
  | [] => none

/-- The text without a point and the zeros, at least one, that follow it. -/
def withoutZeroFraction (cs : List Char) : List Char :=
  let (whole, rest) := cs.span (· != '.')
  match rest with
  | _ :: zeros => if !zeros.isEmpty && zeros.all (· == '0') then whole else cs
  | [] => cs

/-- Whether two underscores stand side by side. -/
def hasDoubleUnderscore : List Char → Bool
  | '_' :: '_' :: _ => true
  | _ :: rest => hasDoubleUnderscore rest
  | [] => false

/-- The text without its underscores, unless one is at an end or next to another. -/
def withoutUnderscores? (cs : List Char) : Option (List Char) :=
  if cs.head? = some '_' || cs.getLast? = some '_' || hasDoubleUnderscore cs then none
  else some (cs.filter (· != '_'))

/-- The number of a numeral: a minus sign perhaps, and not too many digits, of which only a lone
one may be a leading zero. -/
def readNumeral? (cs : List Char) : Option Int :=
  let (negative, digits) := splitMinus cs
  if digits.isEmpty || !digits.all Char.isDigit || numeralLimit < digits.length ||
      (digits.head? = some '0' && digits.length ≠ 1) then
    none
  else
    let n := Int.ofNat (Text.decimalValue digits)
    some (if negative then -n else n)

/-- The plain numeral behind a lenient spelling. -/
def plainNumeral? (cs : List Char) : Option (List Char) := do
  let cs ← withoutPlus? (Text.trimBoth Text.isWhiteSpace cs)
  let (negative, cs) := splitMinus cs
  let cs := withoutZeroFraction (← withoutLeadingZeros? cs)
  let cs := (withoutUnderscores? cs).getD cs
  return if negative then '-' :: cs else cs

/-- Whether a text begins with a plain numeral that has too many digits. -/
def beginsOversized (cs : List Char) : Bool :=
  let digits := (splitMinus cs).2.takeWhile Char.isDigit
  numeralLimit < digits.length && digits.head? ≠ some '0'

/-- The whole number that a text spells. Only a plain numeral can be refused for its size. -/
def integerOfText (text : String) : Checked Int :=
  if beginsOversized text.toList then .reject .oversizedInteger
  else
    match plainNumeral? text.toList >>= readNumeral? with
    | some n => .ok n
    | none => .reject .unreadableInteger

/-- The whole number that a value stands for. -/
def toInteger : Json → Checked Int
  | .int n => .ok n
  | .bool b => .ok (if b then 1 else 0)
  | .float x =>
    if x.isFinite then
      match x.toInt? with
      | some n => if n.natAbs < 0x8000000000000000 then .ok n else .reject .oversizedInteger
      | none => .reject .fractionalInteger
    else .reject .infiniteInteger
  | .string s => integerOfText s
  | _ => .reject .notInteger

/-- A whole number that is at least `bound`. -/
def atLeast (bound n : Int) : Checked Int :=
  if n < bound then .reject (.below bound) else .ok n

/-- A whole number that is at most `bound`. -/
def atMost (bound n : Int) : Checked Int :=
  if bound < n then .reject (.above bound) else .ok n

end Integers

section Numbers

/-- Splits a sign of either kind off. -/
def readSign : List Char → Bool × List Char
  | '-' :: rest => (true, rest)
  | '+' :: rest => (false, rest)
  | cs => (false, cs)

/-- The exponent that the rest of a decimal consists of. -/
def exponent? : List Char → Option Int
  | [] => some 0
  | mark :: rest =>
    if mark == 'e' || mark == 'E' then
      let (negative, digits) := readSign rest
      if digits.isEmpty || !digits.all Char.isDigit then none
      else
        let n := Int.ofNat (Text.decimalValue digits)
        some (if negative then -n else n)
    else none

/-- An unsigned decimal: digits with at most one point among or around them, and an exponent. -/
def decimal? (negative : Bool) (cs : List Char) : Option Binary64 := do
  let (whole, rest) := cs.span Char.isDigit
  let (fraction, rest) := match rest with
    | '.' :: rest => rest.span Char.isDigit
    | rest => ([], rest)
  guard (!(whole.isEmpty && fraction.isEmpty))
  let exponent ← exponent? rest
  return Binary64.ofDecimal negative (Text.decimalValue (whole ++ fraction))
    (exponent - Int.ofNat fraction.length)

/-- A signed decimal, or one of the words for the numbers that have no numeral. -/
def signedDecimal? (cs : List Char) : Option Binary64 :=
  let (negative, rest) := readSign cs
  let word := String.ofList (rest.map Char.toLower)
  if word = "inf" || word = "infinity" then some (Binary64.infinity negative)
  else if word = "nan" then some Binary64.nan
  else decimal? negative rest

/-- The number that a text spells: white space may surround it, or underscores may group its
digits, but not both. -/
def numberOfText (text : String) : Checked Binary64 :=
  let plain := signedDecimal? (Text.trimBoth Text.isWhiteSpace text.toList)
  match plain <|> (withoutUnderscores? text.toList >>= signedDecimal?) with
  | some x => .ok x
  | none => .reject .unreadableNumber

/-- The number that a value stands for. -/
def toNumber : Json → Checked Binary64
  | .float x => .ok x
  | .int n => .ok (Binary64.ofInt n)
  | .bool b => .ok (Binary64.ofInt (if b then 1 else 0))
  | .string s => numberOfText s
  | _ => .reject .notNumber

end Numbers

section Compounds

def toText : Json → Checked String
  | .string s => .ok s
  | _ => .reject .notString

def toOptional {α : Type} (convert : Json → Checked α) : Json → Checked (Option α)
  | .null => .ok none
  | value => (convert value).map some

def toMembers : Json → Checked (List (String × Json))
  | .object members => .ok members
  | _ => .reject .notObject

/-- The members of a value that describes a thing with named parts. -/
def toRecord : Json → Checked (List (String × Json))
  | .object members => .ok members
  | _ => .reject .notRecord

/-- The items of an array from a position on, with the position in the path of each issue. -/
def convertFrom {α : Type} (convert : Json → Checked α) : Nat → List Json → List (Checked α)
  | _, [] => []
  | index, item :: rest =>
    (convert item).within (.position index) :: convertFrom convert (index + 1) rest

/-- An array of any length; `cause` is what is wrong with another value. -/
def toSequence {α : Type} (cause : Cause) (convert : Json → Checked α) : Json → Checked (List α)
  | .array items => Checked.all (convertFrom convert 0 items)
  | _ => .reject cause

/-- The parts of a value, where an array is asked for. -/
def toItems {α : Type} (convert : Json → Checked α) : Json → Checked (List α) :=
  toSequence .notArray convert

/-- The entries of a setting, where a list is asked for. -/
def toList {α : Type} (convert : Json → Checked α) : Json → Checked (List α) :=
  toSequence .notList convert

def toPlaces (size : Nat) : Json → Checked (List Json)
  | .array items =>
    if size < items.length then .reject (.tooLong size items.length) else .ok items
  | _ => .reject .notArray

/-- The item at a place of an array; a missing one is an issue of that place. -/
def place {α : Type} (items : List Json) (convert : Json → Checked α) (index : Nat) : Checked α :=
  match items[index]? with
  | some item => (convert item).within (.position index)
  | none => (Checked.reject .missing).within (.position index)

/-- The first of the names under which a record has a member, and that member. -/
def firstMember? (members : List (String × Json)) : List String → Option (String × Json)
  | [] => none
  | name :: names =>
    match Json.lookup? name members with
    | some value => some (name, value)
    | none => firstMember? members names

/-- A member that must be there. A record may know it by several names, the first of which is used
when it is missing. -/
def required {α : Type} (members : List (String × Json)) (name : String) (others : List String)
    (convert : Json → Checked α) : Checked α :=
  match firstMember? members (name :: others) with
  | some (found, value) => (convert value).within (.member found)
  | none => (Checked.reject .missing).within (.member name)

def optional {α : Type} (members : List (String × Json)) (names : List String) (default : α)
    (convert : Json → Checked α) : Checked α :=
  match firstMember? members names with
  | some (found, value) => (convert value).within (.member found)
  | none => .ok default

end Compounds

end Schema
end VectorTiles
