import VectorTiles.Schema.Convert
import Mathlib.Tactic.Common

/-!
# Refusals

A document is not refused without a reason.

**Rules.** A value made of parts is refused only for an issue with one of them, or with the whole.

**Results.**

* `IsExplained`: a refusal gives an issue at least.
* `isExplained_required`, `isExplained_optional`, `isExplained_toItems` and the like: every conversion
  explains its refusals.
-/

namespace VectorTiles
namespace Schema

/-- Either there is a value, or there are issues. -/
def IsExplained {α : Type} (checked : Checked α) : Prop :=
  checked ≠ .error []

section Parts

variable {α β : Type} {checked : Checked α}

theorem isExplained_ok (a : α) : IsExplained (.ok a : Checked α) := by
  nofun

theorem isExplained_reject (cause : Cause) : IsExplained (.reject cause : Checked α) := by
  nofun

theorem IsExplained.bind {next : α → Checked β} (h : IsExplained checked)
    (hnext : ∀ a, IsExplained (next a)) : IsExplained (checked >>= next) := by
  cases checked with
  | error issues =>
      intro hempty
      obtain rfl : issues = [] := Except.error.inj hempty
      exact h rfl
  | ok a => exact hnext a

theorem IsExplained.map (h : IsExplained checked) (f : α → β) : IsExplained (checked.map f) := by
  cases checked with
  | error issues =>
      intro hempty
      obtain rfl : issues = [] := Except.error.inj hempty
      exact h rfl
  | ok a => exact isExplained_ok (f a)

theorem IsExplained.within (h : IsExplained checked) (step : Step) :
    IsExplained (checked.within step) := by
  cases checked with
  | error issues =>
      intro hempty
      have hissues : issues = [] := List.map_eq_nil_iff.mp (Except.error.inj hempty)
      exact h (congrArg Except.error hissues)
  | ok a => exact isExplained_ok a

theorem IsExplained.both {second : Checked β} (h : IsExplained checked)
    (hsecond : IsExplained second) : IsExplained (checked.both second) := by
  cases checked with
  | ok a =>
      cases second with
      | ok b => exact isExplained_ok (a, b)
      | error issues =>
          intro hempty
          obtain rfl : issues = [] := Except.error.inj hempty
          exact hsecond rfl
  | error issues =>
      have hne : issues ≠ [] := fun hnil => h (congrArg Except.error hnil)
      cases second with
      | ok b => exact fun hempty => hne (Except.error.inj hempty)
      | error more =>
          exact fun hempty => hne (List.append_eq_nil_iff.mp (Except.error.inj hempty)).1

theorem IsExplained.apply {function : Checked (α → β)} (hfunction : IsExplained function)
    (h : IsExplained checked) : IsExplained (function.apply checked) :=
  (hfunction.both h).map _

theorem isExplained_all {parts : List (Checked α)} (h : ∀ part ∈ parts, IsExplained part) :
    IsExplained (Checked.all parts) := by
  induction parts with
  | nil => exact isExplained_ok []
  | cons part parts ih =>
      obtain ⟨hpart, hparts⟩ := List.forall_mem_cons.mp h
      exact (hpart.both (ih hparts)).map _

end Parts

section Conversions

variable {α : Type} {convert : Json → Checked α}

theorem isExplained_integerOfText (text : String) : IsExplained (integerOfText text) := by
  rw [integerOfText]
  split_ifs
  · exact isExplained_reject _
  · split
    · exact isExplained_ok _
    · exact isExplained_reject _

theorem isExplained_toInteger (value : Json) : IsExplained (toInteger value) := by
  cases value with
  | int n => exact isExplained_ok n
  | bool b => exact isExplained_ok _
  | string text => exact isExplained_integerOfText text
  | float x =>
      rw [toInteger]
      split_ifs
      · split
        · split_ifs
          · exact isExplained_ok _
          · exact isExplained_reject _
        · exact isExplained_reject _
      · exact isExplained_reject _
  | _ => exact isExplained_reject _

theorem isExplained_atLeast (bound n : Int) : IsExplained (atLeast bound n) := by
  rw [atLeast]
  split_ifs
  · exact isExplained_reject _
  · exact isExplained_ok n

theorem isExplained_atMost (bound n : Int) : IsExplained (atMost bound n) := by
  rw [atMost]
  split_ifs
  · exact isExplained_reject _
  · exact isExplained_ok n

theorem isExplained_numberOfText (text : String) : IsExplained (numberOfText text) := by
  rw [numberOfText]
  split
  · exact isExplained_ok _
  · exact isExplained_reject _

theorem isExplained_toNumber (value : Json) : IsExplained (toNumber value) := by
  cases value with
  | float x => exact isExplained_ok x
  | int n => exact isExplained_ok _
  | bool b => exact isExplained_ok _
  | string text => exact isExplained_numberOfText text
  | _ => exact isExplained_reject _

theorem isExplained_toText (value : Json) : IsExplained (toText value) := by
  cases value with
  | string text => exact isExplained_ok text
  | _ => exact isExplained_reject _

theorem isExplained_toMembers (value : Json) : IsExplained (toMembers value) := by
  cases value with
  | object members => exact isExplained_ok members
  | _ => exact isExplained_reject _

theorem isExplained_toRecord (value : Json) : IsExplained (toRecord value) := by
  cases value with
  | object members => exact isExplained_ok members
  | _ => exact isExplained_reject _

theorem isExplained_toOptional (h : ∀ value, IsExplained (convert value)) (value : Json) :
    IsExplained (toOptional convert value) := by
  cases value with
  | null => exact isExplained_ok none
  | _ => exact (h _).map some

theorem isExplained_of_mem_convertFrom (h : ∀ value, IsExplained (convert value)) {index : Nat}
    {items : List Json} : ∀ part ∈ convertFrom convert index items, IsExplained part := by
  induction items generalizing index with
  | nil => simp [convertFrom]
  | cons item items ih => exact List.forall_mem_cons.mpr ⟨(h item).within _, ih⟩

theorem isExplained_toItems (h : ∀ value, IsExplained (convert value)) (value : Json) :
    IsExplained (toItems convert value) := by
  cases value with
  | array items => exact isExplained_all (isExplained_of_mem_convertFrom h)
  | _ => exact isExplained_reject _

theorem isExplained_toPlaces (size : Nat) (value : Json) : IsExplained (toPlaces size value) := by
  cases value with
  | array items =>
      rw [toPlaces]
      split_ifs
      · exact isExplained_reject _
      · exact isExplained_ok items
  | _ => exact isExplained_reject _

theorem isExplained_place (h : ∀ value, IsExplained (convert value)) (items : List Json)
    (index : Nat) : IsExplained (place items convert index) := by
  rw [place]
  split
  · exact (h _).within _
  · exact (isExplained_reject _).within _

theorem isExplained_required (h : ∀ value, IsExplained (convert value))
    (members : List (String × Json)) (name : String) (others : List String) :
    IsExplained (required members name others convert) := by
  rw [required]
  split
  · exact (h _).within _
  · exact (isExplained_reject _).within _

theorem isExplained_optional (h : ∀ value, IsExplained (convert value))
    (members : List (String × Json)) (names : List String) (default : α) :
    IsExplained (optional members names default convert) := by
  rw [optional]
  split
  · exact (h _).within _
  · exact isExplained_ok default

end Conversions

end Schema
end VectorTiles
