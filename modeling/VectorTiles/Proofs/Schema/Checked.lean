import VectorTiles.Proofs.Partiality
import VectorTiles.Schema.Convert
import Mathlib.Data.List.Forall2
import Mathlib.Tactic.Common

/-!
# Conversions that succeed

A value is built from checked parts. It is there if and only if every part is there, so what is known
of the parts is known of the whole.

**Results.**

* `apply_eq_ok`, `exists_apply_eq_ok`: the parts of a value.
* `required_eq_ok`, `optional_eq_ok`, `toItems_eq_ok`: members of a record, items of an array.
-/

namespace VectorTiles
namespace Schema

section Parts

variable {α β : Type} {checked : Checked α} {a : α} {b : β}

theorem reject_ne_ok {cause : Cause} : (Checked.reject cause : Checked α) ≠ .ok a := by
  intro h
  cases h

theorem build_eq_ok {other : α} : Checked.build a = .ok other ↔ a = other :=
  ⟨Except.ok.inj, congrArg _⟩

theorem apply_eq_ok {function : Checked (α → β)} :
    function.apply checked = .ok b ↔ ∃ f a, function = .ok f ∧ checked = .ok a ∧ f a = b := by
  constructor
  · intro h
    cases function with
    | error issues => cases checked <;> cases h
    | ok f =>
        cases checked with
        | error issues => cases h
        | ok a => exact ⟨f, a, rfl, rfl, Except.ok.inj h⟩
  · rintro ⟨f, a, rfl, rfl, rfl⟩
    rfl

theorem exists_build_eq_ok {test : α → Prop} : (∃ b, Checked.build a = .ok b ∧ test b) ↔ test a := by
  simp only [build_eq_ok, exists_eq_left']

/-- A function and its argument, where more is asked of the value. -/
theorem exists_apply_eq_ok {function : Checked (α → β)} {test : β → Prop} :
    (∃ b, function.apply checked = .ok b ∧ test b) ↔
      ∃ f, function = .ok f ∧ ∃ a, checked = .ok a ∧ test (f a) := by
  simp only [apply_eq_ok]
  constructor
  · rintro ⟨_, ⟨f, a, hfunction, hchecked, rfl⟩, htest⟩
    exact ⟨f, hfunction, a, hchecked, htest⟩
  · rintro ⟨f, hfunction, a, hchecked, htest⟩
    exact ⟨f a, ⟨f, a, hfunction, hchecked, rfl⟩, htest⟩

theorem within_eq_ok {step : Step} : checked.within step = .ok a ↔ checked = .ok a := by
  cases checked with
  | error issues =>
      constructor
      · intro h
        cases h
      · intro h
        cases h
  | ok other => exact Iff.rfl

theorem all_eq_ok {parts : List (Checked α)} {values : List α} :
    Checked.all parts = .ok values ↔
      List.Forall₂ (fun part value => part = .ok value) parts values := by
  induction parts generalizing values with
  | nil =>
      constructor
      · intro h
        obtain rfl := Except.ok.inj h
        exact .nil
      · rintro ⟨⟩
        rfl
  | cons part parts ih =>
      rw [Checked.all]
      constructor
      · intro h
        cases part with
        | error issues => cases hrest : Checked.all parts <;> rw [hrest] at h <;> cases h
        | ok value =>
            cases hrest : Checked.all parts with
            | error issues =>
                rw [hrest] at h
                cases h
            | ok others =>
                rw [hrest] at h
                obtain rfl := Except.ok.inj h
                exact .cons rfl (ih.mp hrest)
      · intro h
        cases h with
        | cons hpart hrest =>
            rw [hpart, ih.mpr hrest]
            rfl

end Parts

section Members

variable {α : Type} {convert : Json → Checked α} {members : List (String × Json)} {a : α}

theorem required_eq_ok {name : String} {others : List String} :
    required members name others convert = .ok a ↔
      ∃ found value, firstMember? members (name :: others) = some (found, value) ∧
        convert value = .ok a := by
  rw [required]
  cases hmember : firstMember? members (name :: others) with
  | none =>
      constructor
      · intro h
        cases h
      · rintro ⟨found, value, h, -⟩
        cases h
  | some member =>
      obtain ⟨found, value⟩ := member
      simp only [within_eq_ok]
      constructor
      · intro h
        exact ⟨found, value, rfl, h⟩
      · rintro ⟨other, same, h, hconvert⟩
        obtain ⟨rfl, rfl⟩ := Prod.mk.inj (Option.some.inj h)
        exact hconvert

theorem optional_eq_ok {names : List String} {default : α} :
    optional members names default convert = .ok a ↔
      match firstMember? members names with
      | some (_, value) => convert value = .ok a
      | none => default = a := by
  rw [optional]
  cases firstMember? members names with
  | none => exact ⟨Except.ok.inj, congrArg _⟩
  | some member => exact within_eq_ok

theorem convertFrom_eq_ok {index : Nat} {items : List Json} {values : List α} :
    List.Forall₂ (fun part value => part = .ok value) (convertFrom convert index items) values ↔
      List.Forall₂ (fun item value => convert item = .ok value) items values := by
  induction items generalizing index values with
  | nil =>
      constructor
      · rintro ⟨⟩
        exact .nil
      · rintro ⟨⟩
        exact .nil
  | cons item items ih =>
      rw [convertFrom]
      constructor
      · intro h
        cases h with
        | cons hitem hrest => exact .cons (within_eq_ok.mp hitem) (ih.mp hrest)
      · intro h
        cases h with
        | cons hitem hrest => exact .cons (within_eq_ok.mpr hitem) (ih.mpr hrest)

theorem toItems_eq_ok {value : Json} {values : List α} :
    toItems convert value = .ok values ↔ ∃ items, value = .array items ∧
      List.Forall₂ (fun item value => convert item = .ok value) items values := by
  rw [toItems]
  cases value with
  | array items =>
      rw [toSequence, all_eq_ok, convertFrom_eq_ok]
      constructor
      · intro h
        exact ⟨items, rfl, h⟩
      · rintro ⟨others, h, hitems⟩
        obtain rfl := Json.array.inj h
        exact hitems
  | _ =>
      constructor
      · intro h
        cases h
      · rintro ⟨items, h, -⟩
        cases h

end Members

section Bounds

variable {bound n m : Int}

theorem atLeast_eq_ok : atLeast bound n = .ok m ↔ bound ≤ n ∧ n = m := by
  rw [atLeast]
  split_ifs with h
  · constructor
    · intro hreject
      exact absurd hreject reject_ne_ok
    · rintro ⟨hbound, -⟩
      omega
  · constructor
    · intro hok
      exact ⟨by omega, Except.ok.inj hok⟩
    · rintro ⟨-, rfl⟩
      rfl

theorem atMost_eq_ok : atMost bound n = .ok m ↔ n ≤ bound ∧ n = m := by
  rw [atMost]
  split_ifs with h
  · constructor
    · intro hreject
      exact absurd hreject reject_ne_ok
    · rintro ⟨hbound, -⟩
      omega
  · constructor
    · intro hok
      exact ⟨by omega, Except.ok.inj hok⟩
    · rintro ⟨-, rfl⟩
      rfl

end Bounds

end Schema
end VectorTiles
