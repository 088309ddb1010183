import VectorTiles.Text.Digits
import VectorTiles.Text.DomainLetter
import VectorTiles.Text.LowerCase
import VectorTiles.Text.Punycode
import VectorTiles.Text.Split

/-!
# Hosts

**Rules.** Four numbers with points between them are an address of four bytes, and a text in square
brackets is an address of eight groups with colons between them, of which one run may be left out
and the last two may be written as four bytes. Any other host is a domain name, which is sent in
lower case and, if it has characters outside ASCII, label by label in the form that ASCII has for
them.

**Results.**

* `hostOf?`: a host as it is sent, if it can be sent.
-/

namespace VectorTiles
namespace Http

section Addresses

/-- Whether a text consists of four numbers with points between them. -/
def isNumeric (cs : List Char) : Bool :=
  let parts := Text.splitBy (· == '.') cs
  parts.length = 4 && parts.all fun part => !part.isEmpty && part.all Char.isDigit

/-- A byte in decimal digits, without zeros in front. -/
def isByteNumeral (digits : List Char) : Bool :=
  !digits.isEmpty && digits.all Char.isDigit && digits.length ≤ 3 &&
    (digits.length = 1 || digits.head? != some '0') && Text.decimalValue digits < 256

/-- Whether a text is an address of four bytes. -/
def isByteAddress (cs : List Char) : Bool :=
  let parts := Text.splitBy (· == '.') cs
  parts.length = 4 && parts.all isByteNumeral

/-- Whether a text is a group of an address: up to four hexadecimal digits. -/
def isGroup (cs : List Char) : Bool :=
  !cs.isEmpty && cs.length ≤ 4 && cs.all fun c => (Text.hexValue? c).isSome

/-- The parts of an address with colons; four bytes at the end count as two groups. -/
def groupParts? (cs : List Char) : Option (List (List Char)) :=
  let parts := Text.splitBy (· == ':') cs
  match parts.getLast? with
  | some last =>
    if last.contains '.' then
      if isByteAddress last then some (parts.dropLast ++ [['0'], ['0']]) else none
    else some parts
  | none => none

/-- The groups on one side of those that are left out. -/
def sideGroups (parts : List (List Char)) : List (List Char) :=
  if parts = [[]] then [] else parts

/-- Whether parts are the groups of an address. Between two of its colons, nothing stands at most
once. -/
def areGroups (parts : List (List Char)) : Bool :=
  let inner := parts.tail.dropLast
  if inner.all (!·.isEmpty) then parts.length = 8 && parts.all isGroup
  else
    let before := parts.take 1 ++ inner.takeWhile (!·.isEmpty)
    let groups := sideGroups before ++ sideGroups (parts.drop (before.length + 1))
    groups.length ≤ 7 && groups.all isGroup

/-- Whether a text is an address of eight groups, perhaps with the name of a zone behind it. -/
def isGroupAddress (cs : List Char) : Bool :=
  let (address, zone) := cs.span (· != '%')
  (zone.isEmpty || (zone.tail != [] && !zone.tail.contains '%')) && !address.contains '/' &&
    match groupParts? address with
    | some parts => 3 ≤ parts.length && areGroups parts
    | none => false

end Addresses

section Domains

/-- The points that divide the labels of a domain name. -/
def isLabelPoint (c : Char) : Bool :=
  c == '.' || c == '。' || c == '．' || c == '｡'

/-- Whether a text can be a label of a domain name. -/
def isLabel (label : List Char) : Bool :=
  !label.isEmpty && label.all Text.isDomainLetter && Text.isComposed label &&
    (label.drop 2).take 2 != ['-', '-'] && label.head? != some '-' &&
    label.getLast? != some '-' && !label.head?.any Text.isDiacritic

/-- What the form of a label in ASCII begins with. -/
def labelMark : List Char := "xn--".toList

def asciiLabel? (label : List Char) : Option (List Char) := do
  let isMarked := labelMark.isPrefixOf label
  let form :=
    if label.all (·.toNat < 128) then label else labelMark ++ Punycode.encode label
  guard (if isMarked && form = label then
      labelMark.length < label.length && label.getLast? != some '-'
    else isLabel label)
  guard (form.length ≤ 63)
  return form

/-- The form of a domain name in ASCII. A point may end it. -/
def asciiDomain? (cs : List Char) : Option (List Char) := do
  let labels := Text.splitBy isLabelPoint cs
  let hasEnd := 1 < labels.length && labels.getLast? = some []
  let forms ← (if hasEnd then labels.dropLast else labels).mapM asciiLabel?
  let domain := List.intercalate ['.'] forms ++ (if hasEnd then ['.'] else [])
  guard (domain.length ≤ if hasEnd then 254 else 253)
  return domain

/-- A domain name of ASCII with escapes for square brackets. -/
def withoutBrackets (cs : List Char) : List Char :=
  cs.flatMap fun c =>
    if c = '[' then "%5B".toList else if c = ']' then "%5D".toList else [c]

end Domains

def hostOf? (cs : List Char) : Option (List Char) :=
  if isNumeric cs then if isByteAddress cs then some cs else none
  else if cs.head? = some '[' && cs.getLast? = some ']' then
    if isGroupAddress cs.tail.dropLast then some cs else none
  else if cs.all (·.toNat < 128) then some (withoutBrackets (cs.map Char.toLower))
  else asciiDomain? (Text.lower (String.ofList cs)).toList

end Http
end VectorTiles
