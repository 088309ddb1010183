import VectorTiles.Sql.Identifier
import Mathlib.Data.List.Basic
import Mathlib.Tactic.Common

/-!
# Tokens of a statement

A statement without literals and comments is a sequence of quoted names, words and marks.

**Algorithm.** One pass over the characters. A quote inside a name ends it, unless another quote
follows: then both stand for one quote of the name.

**Results.**

* `tokens`: the tokens of a statement.
* `IsPart`: a part of a statement whose tokens do not depend on what stands behind it.
* `IsPart.identifier`, `IsPart.qualified`, `IsPart.intercalate`: names and lists are such parts.
-/

namespace VectorTiles
namespace Sql

section Defs

/-- A part of a statement. -/
inductive Token where
  | name (text : String)
  | word (text : String)
  | mark (c : Char)
  deriving DecidableEq, Repr

/-- What a place in a statement is inside of, with the characters of it so far. -/
inductive Place where
  | between
  | word (front : List Char)
  | name (front : List Char)
  /-- Behind a quote in a name. -/
  | closing (front : List Char)
  deriving DecidableEq, Repr

/-- What a character begins where nothing is open. -/
def Place.begun (c : Char) : List Token × Place :=
  if c = '"' then ([], .name [])
  else if c.isAlpha then ([], .word [c])
  else if c = ' ' then ([], .between)
  else ([.mark c], .between)

/-- The tokens that a character completes, and the place behind it. -/
def Place.step : Place → Char → List Token × Place
  | between, c => begun c
  | word front, c =>
    if c.isAlpha then ([], .word (front ++ [c]))
    else (.word (String.ofList front) :: (begun c).1, (begun c).2)
  | name front, c => if c = '"' then ([], .closing front) else ([], .name (front ++ [c]))
  | closing front, c =>
    if c = '"' then ([], .name (front ++ [c]))
    else (.name (String.ofList front) :: (begun c).1, (begun c).2)

/-- The tokens that the end of a statement completes. A name that is left open is none. -/
def Place.finish : Place → List Token
  | between => []
  | word front => [.word (String.ofList front)]
  | name _ => [.mark '"']
  | closing front => [.name (String.ofList front)]

/-- The tokens that are completed behind a place. -/
def tokensFrom : Place → List Char → List Token
  | place, [] => place.finish
  | place, c :: cs => (place.step c).1 ++ tokensFrom (place.step c).2 cs

def tokens (cs : List Char) : List Token :=
  tokensFrom .between cs

/-- A character that neither continues a word nor touches a name. -/
def isSeparator (c : Char) : Bool :=
  c != '"' && !c.isAlpha

/-- A text with its tokens, if a separator or the end of the statement stands behind it. -/
def IsPart (text : List Char) (ts : List Token) : Prop :=
  ∀ back : List Char, back.head?.all isSeparator = true → tokens (text ++ back) = ts ++ tokens back

/-- A text with its tokens, whatever stands behind it. -/
def IsFront (text : List Char) (ts : List Token) : Prop :=
  ∀ back : List Char, tokens (text ++ back) = ts ++ tokens back

end Defs

section Names

theorem tokensFrom_doubled (front cs back : List Char) :
    tokensFrom (.name front) (doubled '"' cs ++ back) = tokensFrom (.name (front ++ cs)) back := by
  induction cs generalizing front with
  | nil => simp [doubled]
  | cons c cs ih =>
      have hcons : doubled '"' (c :: cs) =
          (if c = '"' then [c, c] else [c]) ++ doubled '"' cs := rfl
      rw [hcons]
      split_ifs with hc
      · simp [tokensFrom, Place.step, hc, ih]
      · simp [tokensFrom, Place.step, hc, ih]

/-- A quote ends a name, unless another one follows. -/
theorem tokensFrom_closing (front : List Char) {back : List Char}
    (h : back.head?.all isSeparator = true) :
    tokensFrom (.closing front) back = .name (String.ofList front) :: tokens back := by
  cases back with
  | nil => rfl
  | cons c back =>
      have hc : c ≠ '"' := by
        rintro rfl
        simp [isSeparator] at h
      simp [tokens, tokensFrom, Place.step, hc]

theorem tokensFrom_word (front : List Char) {back : List Char}
    (h : back.head?.all isSeparator = true) :
    tokensFrom (.word front) back = .word (String.ofList front) :: tokens back := by
  cases back with
  | nil => rfl
  | cons c back =>
      have hc : c.isAlpha = false := by
        simp [isSeparator] at h
        exact h.2
      simp [tokens, tokensFrom, Place.step, hc]

theorem IsPart.identifier (name : String) :
    IsPart (Sql.identifier name).toList [.name name] := by
  intro back hback
  have hquoted : (Sql.identifier name).toList ++ back =
      '"' :: (doubled '"' name.toList ++ ('"' :: back)) := by
    simp [Sql.identifier]
  have hbegin : tokens ((Sql.identifier name).toList ++ back) =
      tokensFrom (.name []) (doubled '"' name.toList ++ ('"' :: back)) := by
    rw [hquoted]
    rfl
  have hclose : tokensFrom (.name name.toList) ('"' :: back) =
      tokensFrom (.closing name.toList) back := rfl
  rw [hbegin, tokensFrom_doubled, List.nil_append, hclose, tokensFrom_closing _ hback,
    String.ofList_toList]
  rfl

theorem IsPart.placeholder : IsPart ['%', 's'] [.mark '%', .word "s"] := by
  intro back hback
  have hmark : tokens (['%', 's'] ++ back) = .mark '%' :: tokensFrom (.word ['s']) back := rfl
  rw [hmark, tokensFrom_word _ hback]
  rfl

end Names

section Parts

variable {front text : List Char} {ts us : List Token}

theorem IsPart.tokens_eq (h : IsPart text ts) : tokens text = ts := by
  have hend := h [] rfl
  simpa [tokens, tokensFrom, Place.finish] using hend

theorem IsFront.append (hfront : IsFront front ts) (htext : IsPart text us) :
    IsPart (front ++ text) (ts ++ us) := by
  intro back hback
  rw [List.append_assoc, hfront, htext back hback, List.append_assoc]

theorem IsPart.append (hfront : IsPart front ts) (htext : IsPart text us)
    (h : text.head?.any isSeparator = true) : IsPart (front ++ text) (ts ++ us) := by
  intro back hback
  have hhead : (text ++ back).head?.all isSeparator = true := by
    cases text with
    | nil => exact absurd h (by decide)
    | cons c text => simpa using h
  rw [List.append_assoc, hfront _ hhead, htext back hback, List.append_assoc]

/-- The qualified name of a table. -/
theorem IsPart.qualified (schema name : String) :
    IsPart (Sql.qualified schema name).toList [.name schema, .mark '.', .name name] := by
  have hpoint : IsFront ['.'] [.mark '.'] := fun _ => rfl
  have htext : (Sql.qualified schema name).toList =
      (Sql.identifier schema).toList ++ (['.'] ++ (Sql.identifier name).toList) := by
    simp [Sql.qualified]
  rw [htext]
  exact (IsPart.identifier schema).append (hpoint.append (IsPart.identifier name)) rfl

/-- Parts with commas between them. -/
theorem IsPart.intercalate {α : Type} {text : α → List Char} {ts : α → List Token}
    (h : ∀ a, IsPart (text a) (ts a)) (items : List α) :
    IsPart (List.intercalate [',', ' '] (items.map text))
      (List.intercalate [.mark ','] (items.map ts)) := by
  have hcomma : IsFront [',', ' '] [.mark ','] := fun _ => rfl
  induction items with
  | nil => exact fun _ _ => rfl
  | cons first items ih =>
      cases items with
      | nil => simpa using h first
      | cons second items =>
          simpa using (h first).append (hcomma.append ih) rfl

end Parts

end Sql
end VectorTiles
