import VectorTiles.Proofs.Schema.Checked
import Mathlib.Logic.Relator

/-!
# What a document says

A document says what its values are before anything is checked. What is read from it is what it says,
provided that this passes all checks.

**Data.** A description is a relation between values of JSON and what they stand for. A member of a
record counts under the first of its names that the record has.

**Results.**

* `Reads`: a conversion as a description and a test.
* `reads_record`, `Reads.required`, `Reads.optional`, `Reads.toItems`: the conversions of objects and
  arrays.
* `Member.eq`, `rightUnique_isArray` and the like: a value stands for one thing only.
-/

namespace VectorTiles
namespace Schema

open Partiality Relator

section Descriptions

variable {α : Type}

/-- What a conversion makes of a value. -/
def Converts (convert : Json → Checked α) (value : Json) (a : α) : Prop :=
  convert value = .ok a

/-- A text stands for itself. -/
inductive IsText : Json → String → Prop
  | string (text : String) : IsText (.string text) text

/-- An object stands for its members. -/
inductive IsObject : Json → List (String × Json) → Prop
  | object (members : List (String × Json)) : IsObject (.object members) members

/-- An object with members of which something is known. -/
inductive IsRecord (R : List (String × Json) → α → Prop) : Json → α → Prop
  | object {members : List (String × Json)} {a : α} (h : R members a) :
      IsRecord R (.object members) a

/-- An array stands for what its items stand for, one by one. -/
inductive IsArray (R : Json → α → Prop) : Json → List α → Prop
  | array {items : List Json} {values : List α} (h : List.Forall₂ R items values) :
      IsArray R (.array items) values

/-- A null stands for nothing. -/
inductive IsNullable (R : Json → α → Prop) : Json → Option α → Prop
  | null : IsNullable R .null none
  | some {value : Json} {a : α} (hne : value ≠ .null) (h : R value a) :
      IsNullable R value (some a)

/-- The member of a record under the first of the names that it has. -/
inductive Member (R : Json → α → Prop) (members : List (String × Json)) (names : List String) :
    α → Prop
  | found {name : String} {value : Json} {a : α}
      (hfirst : firstMember? members names = some (name, value)) (h : R value a) :
      Member R members names a

/-- Such a member, or a default where the record has none of the names. -/
inductive MemberOr (default : α) (R : Json → α → Prop) (members : List (String × Json))
    (names : List String) : α → Prop
  | found {name : String} {value : Json} {a : α}
      (hfirst : firstMember? members names = some (name, value)) (h : R value a) :
      MemberOr default R members names a
  | missing (hnone : firstMember? members names = none) :
      MemberOr default R members names default

end Descriptions

section Uniqueness

variable {α : Type} {R : Json → α → Prop} {members : List (String × Json)} {names : List String}

theorem rightUnique_converts (convert : Json → Checked α) : RightUnique (Converts convert) :=
  fun _ _ _ hone htwo => Except.ok.inj (hone.symm.trans htwo)

theorem rightUnique_isText : RightUnique IsText := by
  rintro _ _ _ ⟨text⟩ ⟨⟩
  rfl

theorem rightUnique_isObject : RightUnique IsObject := by
  rintro _ _ _ ⟨members⟩ ⟨⟩
  rfl

theorem rightUnique_isRecord {R : List (String × Json) → α → Prop} (h : RightUnique R) :
    RightUnique (IsRecord R) := by
  rintro _ _ _ ⟨hone⟩ ⟨htwo⟩
  exact h hone htwo

theorem rightUnique_isArray (h : RightUnique R) : RightUnique (IsArray R) := by
  rintro _ _ _ ⟨hone⟩ ⟨htwo⟩
  exact h.forall₂ hone htwo

theorem rightUnique_isNullable (h : RightUnique R) : RightUnique (IsNullable R) := by
  intro value one two hone htwo
  cases hone with
  | null =>
      cases htwo with
      | null => rfl
      | some hne _ => exact absurd rfl hne
  | some hne hone =>
      cases htwo with
      | null => exact absurd rfl hne
      | some _ htwo => exact congrArg some (h hone htwo)

theorem Member.eq (h : RightUnique R) {one two : α} (hone : Member R members names one)
    (htwo : Member R members names two) : one = two := by
  obtain ⟨hfirst, hone⟩ := hone
  obtain ⟨hsame, htwo⟩ := htwo
  obtain ⟨-, rfl⟩ := Prod.mk.inj (Option.some.inj (hfirst.symm.trans hsame))
  exact h hone htwo

theorem MemberOr.eq (h : RightUnique R) {default one two : α}
    (hone : MemberOr default R members names one)
    (htwo : MemberOr default R members names two) : one = two := by
  cases hone with
  | found hfirst hone =>
      cases htwo with
      | found hsame htwo => exact Member.eq h (.found hfirst hone) (.found hsame htwo)
      | missing hnone => cases hfirst.symm.trans hnone
  | missing hnone =>
      cases htwo with
      | found hfirst _ => cases hfirst.symm.trans hnone
      | missing _ => rfl

end Uniqueness

section Readings

variable {α : Type} {convert : Json → Checked α} {R : Json → α → Prop} {P : α → Prop}
  {members : List (String × Json)} {a : α}

/-- A conversion gives what a value stands for, if that passes a test. -/
def Reads (convert : Json → Checked α) (R : Json → α → Prop) (P : α → Prop) : Prop :=
  ∀ value a, convert value = .ok a ↔ R value a ∧ P a

theorem reads_toText : Reads toText IsText fun _ => True := by
  intro value text
  rw [and_true]
  constructor
  · intro h
    cases value with
    | string other =>
        obtain rfl : other = text := Except.ok.inj h
        exact .string other
    | _ => cases h
  · rintro ⟨_⟩
    rfl

theorem reads_toMembers : Reads toMembers IsObject fun _ => True := by
  intro value members
  rw [and_true]
  constructor
  · intro h
    cases value with
    | object others =>
        obtain rfl : others = members := Except.ok.inj h
        exact .object others
    | _ => cases h
  · rintro ⟨_⟩
    rfl

theorem toRecord_eq_ok {value : Json} : toRecord value = .ok members ↔ value = .object members := by
  cases value with
  | object others =>
      rw [Json.object.injEq]
      exact ⟨Except.ok.inj, congrArg _⟩
  | _ => exact iff_of_false nofun nofun

theorem Reads.toOptional (h : Reads convert R fun _ => True) :
    Reads (toOptional convert) (IsNullable R) fun _ => True := by
  intro value found
  rw [and_true]
  have hvalue (a : α) : convert value = .ok a ↔ R value a := (h value a).trans (and_true _).to_iff
  by_cases hnull : value = .null
  · subst hnull
    constructor
    · intro hok
      obtain rfl : none = found := Except.ok.inj hok
      exact .null
    · rintro (_ | ⟨hne, _⟩)
      · rfl
      · exact absurd rfl hne
  · have hmap : Schema.toOptional convert value = (convert value).map some := by
      rw [Schema.toOptional]
      exact hnull
    rw [hmap]
    constructor
    · intro hok
      cases hconvert : convert value with
      | error issues =>
          rw [hconvert] at hok
          cases hok
      | ok a =>
          rw [hconvert] at hok
          obtain rfl : some a = found := Except.ok.inj hok
          exact .some hnull ((hvalue a).mp hconvert)
    · rintro (_ | ⟨_, hsome⟩)
      · exact absurd rfl hnull
      · rw [(hvalue _).mpr hsome]
        rfl

theorem forall₂_and_iff {items : List Json} {values : List α} :
    List.Forall₂ (fun item a => R item a ∧ P a) items values ↔
      List.Forall₂ R items values ∧ ∀ a ∈ values, P a := by
  constructor
  · intro h
    induction h with
    | nil => exact ⟨.nil, List.forall_mem_nil P⟩
    | cons hfirst _ ih =>
        exact ⟨.cons hfirst.1 ih.1, List.forall_mem_cons.mpr ⟨hfirst.2, ih.2⟩⟩
  · rintro ⟨hdescribed, htests⟩
    induction hdescribed with
    | nil => exact .nil
    | cons hfirst _ ih =>
        obtain ⟨htest, hrest⟩ := List.forall_mem_cons.mp htests
        exact .cons ⟨hfirst, htest⟩ (ih hrest)

theorem Reads.toItems (h : Reads convert R P) :
    Reads (toItems convert) (IsArray R) fun values => ∀ a ∈ values, P a := by
  have hitems (items : List Json) (values : List α) :
      List.Forall₂ (fun item a => convert item = .ok a) items values ↔
        List.Forall₂ R items values ∧ ∀ a ∈ values, P a := by
    simp only [h _ _, forall₂_and_iff]
  intro value values
  rw [toItems_eq_ok]
  constructor
  · rintro ⟨items, rfl, hforall⟩
    obtain ⟨hdescribed, htests⟩ := (hitems items values).mp hforall
    exact ⟨.array hdescribed, htests⟩
  · rintro ⟨⟨hdescribed⟩, htests⟩
    exact ⟨_, rfl, (hitems _ values).mpr ⟨hdescribed, htests⟩⟩

/-- An object whose members are read one by one. -/
theorem reads_record {body : List (String × Json) → Checked α}
    {R : List (String × Json) → α → Prop}
    (h : ∀ members a, body members = .ok a ↔ R members a ∧ P a) :
    Reads (fun value => toRecord value >>= body) (IsRecord R) P := by
  intro value a
  rw [bind_eq_ok]
  constructor
  · rintro ⟨members, hrecord, hbody⟩
    obtain rfl := toRecord_eq_ok.mp hrecord
    obtain ⟨hmembers, htest⟩ := (h members a).mp hbody
    exact ⟨.object hmembers, htest⟩
  · rintro ⟨⟨hmembers⟩, htest⟩
    exact ⟨_, rfl, (h _ a).mpr ⟨hmembers, htest⟩⟩

/-- A member that has to be there. -/
theorem Reads.required (h : Reads convert R P) (name : String) (others : List String) :
    required members name others convert = .ok a ↔ Member R members (name :: others) a ∧ P a := by
  rw [required_eq_ok]
  constructor
  · rintro ⟨found, value, hfirst, hconvert⟩
    obtain ⟨hvalue, htest⟩ := (h value a).mp hconvert
    exact ⟨.found hfirst hvalue, htest⟩
  · rintro ⟨⟨hfirst, hvalue⟩, htest⟩
    exact ⟨_, _, hfirst, (h _ a).mpr ⟨hvalue, htest⟩⟩

/-- A member that may be left out. The default passes the test. -/
theorem Reads.optional (h : Reads convert R P) {default : α} (hdefault : P default)
    (names : List String) :
    optional members names default convert = .ok a ↔ MemberOr default R members names a ∧ P a := by
  rw [optional_eq_ok]
  cases hfirst : firstMember? members names with
  | none =>
      constructor
      · rintro rfl
        exact ⟨.missing hfirst, hdefault⟩
      · rintro ⟨hmember, -⟩
        cases hmember with
        | found hfound _ => cases hfirst.symm.trans hfound
        | missing _ => rfl
  | some member =>
      obtain ⟨name, value⟩ := member
      constructor
      · intro hconvert
        obtain ⟨hvalue, htest⟩ := (h value a).mp hconvert
        exact ⟨.found hfirst hvalue, htest⟩
      · rintro ⟨hmember, htest⟩
        cases hmember with
        | found hfound hvalue =>
            obtain ⟨-, rfl⟩ := Prod.mk.inj (Option.some.inj (hfirst.symm.trans hfound))
            exact (h value a).mpr ⟨hvalue, htest⟩
        | missing hnone => cases hfirst.symm.trans hnone

end Readings

section Places

variable {α : Type} {convert : Json → Checked α} {items : List Json} {a : α}

theorem toPlaces_eq_ok {size : Nat} {value : Json} :
    toPlaces size value = .ok items ↔ value = .array items ∧ items.length ≤ size := by
  cases value with
  | array others =>
      rw [toPlaces, Json.array.injEq]
      split_ifs with hlong
      · refine iff_of_false reject_ne_ok ?_
        rintro ⟨rfl, hshort⟩
        omega
      · constructor
        · intro hok
          obtain rfl := Except.ok.inj hok
          exact ⟨rfl, by omega⟩
        · rintro ⟨rfl, -⟩
          rfl
  | _ => exact iff_of_false nofun nofun

theorem place_eq_ok {index : Nat} :
    place items convert index = .ok a ↔ ∃ item, items[index]? = some item ∧ convert item = .ok a := by
  rw [place]
  cases items[index]? with
  | none => exact iff_of_false (fun h => reject_ne_ok (within_eq_ok.mp h)) (by simp)
  | some item => simp [within_eq_ok]

theorem place_of_forall₂ {values : List α} (h : List.Forall₂ (Converts convert) items values)
    {index : Nat} (ha : values[index]? = some a) : place items convert index = .ok a := by
  rw [place_eq_ok]
  induction h generalizing index with
  | nil => cases ha
  | @cons item value items values hitem _ ih =>
      cases index with
      | zero =>
          obtain rfl : value = a := Option.some.inj ha
          exact ⟨item, rfl, hitem⟩
      | succ index => exact ih ha

/-- An array that has nothing behind its last place. -/
theorem forall₂_of_places {values : List α} (hlength : items.length ≤ values.length)
    (h : ∀ index a, values[index]? = some a → place items convert index = .ok a) :
    List.Forall₂ (Converts convert) items values := by
  simp only [place_eq_ok] at h
  induction values generalizing items with
  | nil =>
      obtain rfl := List.eq_nil_of_length_eq_zero (Nat.le_zero.mp hlength)
      exact .nil
  | cons value values ih =>
      obtain ⟨first, hfirst, hvalue⟩ := h 0 value rfl
      cases items with
      | nil => cases hfirst
      | cons item items =>
          obtain rfl : item = first := Option.some.inj hfirst
          exact .cons hvalue (ih (Nat.le_of_succ_le_succ hlength) fun index a => h (index + 1) a)

end Places

end Schema
end VectorTiles
