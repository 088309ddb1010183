import VectorTiles.Json.Reader
import Mathlib.Algebra.Group.Nat.Defs
import Mathlib.Data.List.TakeDrop
import Mathlib.Data.List.TakeWhile
import Mathlib.Tactic.Common

/-!
# The extent of a value

How deep a value is nested, and how long its numerals are. A value that is read from a text stays
within the limits of the reader.

**Rules.** Each pair of brackets spends one level of the depth that the reader is given. The numeral of
a number is never longer than the digits that it is read from.

**Results.**

* `IsWithin`: bounds on the depth and on the numerals of a value.
* `isWithin_array`, `isWithin_object`, `MembersWithin.lookup?`: the parts of a value.
* `isWithin_of_read`: values that are read.
-/

namespace VectorTiles
namespace Json

section Parts

variable {value : Json} {items : List Json} {members : List (String × Json)} {name : String}
  {levels digits : Nat}

/-- A value that is nested at most so deep, and whose numerals have at most so many digits. -/
structure IsWithin (levels digits : Nat) (value : Json) : Prop where
  depth_le : value.depth ≤ levels
  numeralLength_le : value.numeralLength ≤ digits

theorem depthOfItems_le_iff : depthOfItems items ≤ levels ↔ ∀ item ∈ items, item.depth ≤ levels := by
  induction items with
  | nil => simp [depthOfItems]
  | cons item items ih => rw [depthOfItems, Nat.max_le, ih, List.forall_mem_cons]

theorem numeralLengthOfItems_le_iff :
    numeralLengthOfItems items ≤ digits ↔ ∀ item ∈ items, item.numeralLength ≤ digits := by
  induction items with
  | nil => simp [numeralLengthOfItems]
  | cons item items ih => rw [numeralLengthOfItems, Nat.max_le, ih, List.forall_mem_cons]

theorem depthOfMembers_le_iff :
    depthOfMembers members ≤ levels ↔ ∀ member ∈ members, member.2.depth ≤ levels := by
  induction members with
  | nil => simp [depthOfMembers]
  | cons member members ih => rw [depthOfMembers, Nat.max_le, ih, List.forall_mem_cons]

theorem numeralLengthOfMembers_le_iff :
    numeralLengthOfMembers members ≤ digits ↔ ∀ member ∈ members, member.2.numeralLength ≤ digits := by
  induction members with
  | nil => simp [numeralLengthOfMembers]
  | cons member members ih => rw [numeralLengthOfMembers, Nat.max_le, ih, List.forall_mem_cons]

/-- Every item of a list is within bounds. -/
def AreWithin (levels digits : Nat) (items : List Json) : Prop :=
  ∀ item ∈ items, item.IsWithin levels digits

/-- Every member of a record is within bounds. -/
def MembersWithin (levels digits : Nat) (members : List (String × Json)) : Prop :=
  ∀ member ∈ members, member.2.IsWithin levels digits

theorem isWithin_array :
    (array items).IsWithin (levels + 1) digits ↔ AreWithin levels digits items := by
  constructor
  · rintro ⟨hdepth, hnumeral⟩ item hitem
    rw [depth, Nat.add_le_add_iff_right, depthOfItems_le_iff] at hdepth
    rw [numeralLength, numeralLengthOfItems_le_iff] at hnumeral
    exact ⟨hdepth item hitem, hnumeral item hitem⟩
  · intro h
    constructor
    · rw [depth, Nat.add_le_add_iff_right, depthOfItems_le_iff]
      exact fun item hitem => (h item hitem).depth_le
    · rw [numeralLength, numeralLengthOfItems_le_iff]
      exact fun item hitem => (h item hitem).numeralLength_le

theorem isWithin_object :
    (object members).IsWithin (levels + 1) digits ↔ MembersWithin levels digits members := by
  constructor
  · rintro ⟨hdepth, hnumeral⟩ member hmember
    rw [depth, Nat.add_le_add_iff_right, depthOfMembers_le_iff] at hdepth
    rw [numeralLength, numeralLengthOfMembers_le_iff] at hnumeral
    exact ⟨hdepth member hmember, hnumeral member hmember⟩
  · intro h
    constructor
    · rw [depth, Nat.add_le_add_iff_right, depthOfMembers_le_iff]
      exact fun member hmember => (h member hmember).depth_le
    · rw [numeralLength, numeralLengthOfMembers_le_iff]
      exact fun member hmember => (h member hmember).numeralLength_le

theorem isWithin_string (levels digits : Nat) (text : String) :
    (string text).IsWithin levels digits :=
  ⟨Nat.zero_le _, Nat.zero_le _⟩

theorem isWithin_float (levels digits : Nat) (x : Binary64) : (float x).IsWithin levels digits :=
  ⟨Nat.zero_le _, Nat.zero_le _⟩

theorem IsWithin.mono {fewer less : Nat} (h : value.IsWithin fewer less) (hlevels : fewer ≤ levels)
    (hdigits : less ≤ digits) : value.IsWithin levels digits :=
  ⟨h.depth_le.trans hlevels, h.numeralLength_le.trans hdigits⟩

theorem MembersWithin.put (h : MembersWithin levels digits members)
    (hvalue : value.IsWithin levels digits) : MembersWithin levels digits (put name value members) := by
  induction members with
  | nil => exact List.forall_mem_singleton.mpr hvalue
  | cons member members ih =>
      obtain ⟨hfirst, hrest⟩ := List.forall_mem_cons.mp h
      rw [Json.put]
      split_ifs
      · exact List.forall_mem_cons.mpr ⟨hvalue, hrest⟩
      · exact List.forall_mem_cons.mpr ⟨hfirst, ih hrest⟩

theorem MembersWithin.lookup? (h : MembersWithin levels digits members)
    (hlookup : lookup? name members = some value) : value.IsWithin levels digits := by
  induction members with
  | nil => cases hlookup
  | cons member members ih =>
      obtain ⟨hfirst, hrest⟩ := List.forall_mem_cons.mp h
      rw [Json.lookup?] at hlookup
      split_ifs at hlookup
      · obtain rfl := Option.some.inj hlookup
        exact hfirst
      · exact ih hrest hlookup

theorem isWithin_iff {limits : Limits} :
    value.isWithin limits ↔ value.IsWithin limits.depth limits.integer := by
  rw [Json.isWithin, Bool.and_eq_true, decide_eq_true_eq, decide_eq_true_eq]
  exact ⟨fun h => ⟨h.1, h.2⟩, fun h => ⟨h.depth_le, h.numeralLength_le⟩⟩

end Parts

section Numerals

theorem digitValue_lt {c : Char} (h : c.isDigit) : Text.digitValue c < 10 := by
  simp only [Char.isDigit, Bool.and_eq_true, decide_eq_true_eq] at h
  have hhigh : c.toNat ≤ 57 := h.2
  have hzero : '0'.toNat = 48 := rfl
  rw [Text.digitValue, hzero]
  omega

/-- A number is less than the power of ten that its digits have room for. -/
theorem decimalValue_lt {cs : List Char} (h : ∀ c ∈ cs, c.isDigit) :
    Text.decimalValue cs < 10 ^ cs.length := by
  have hfold (n : Nat) : cs.foldl (fun n c => 10 * n + Text.digitValue c) n <
      (n + 1) * 10 ^ cs.length := by
    induction cs generalizing n with
    | nil => simp
    | cons c cs ih =>
        obtain ⟨hc, hcs⟩ := List.forall_mem_cons.mp h
        have hdigit := digitValue_lt hc
        calc cs.foldl (fun n c => 10 * n + Text.digitValue c) (10 * n + Text.digitValue c)
            < (10 * n + Text.digitValue c + 1) * 10 ^ cs.length := ih hcs _
          _ ≤ ((n + 1) * 10) * 10 ^ cs.length := Nat.mul_le_mul_right _ (by omega)
          _ = (n + 1) * 10 ^ (c :: cs).length := by
              rw [List.length_cons, Nat.pow_succ', Nat.mul_assoc]
  simpa [Text.decimalValue] using hfold 0

theorem decimalValue_takeWhile_lt (cs : List Char) :
    Text.decimalValue (cs.takeWhile Char.isDigit) < 10 ^ (cs.takeWhile Char.isDigit).length :=
  decimalValue_lt fun _ hc => List.mem_takeWhile_imp hc

theorem natAbs_ite (negative : Bool) (n : Nat) :
    (if negative then -Int.ofNat n else Int.ofNat n).natAbs = n := by
  cases negative with
  | false => rfl
  | true => exact Int.natAbs_neg n

theorem length_toString_le {n digits : Nat} (hpos : 0 < digits) (h : n < 10 ^ digits) :
    (toString n).length ≤ digits := by
  have hrepr : toString n = String.ofList (Nat.toDigits 10 n) := Nat.repr_eq_ofList_toDigits
  rw [hrepr, String.length_ofList]
  exact (Nat.length_toDigits_le_iff (by decide) hpos).mpr h

theorem isWithin_int {n : Int} {digits : Nat} (hpos : 0 < digits) (h : n.natAbs < 10 ^ digits) :
    (int n).IsWithin 0 digits :=
  ⟨Nat.le_refl _, length_toString_le hpos h⟩

end Numerals

section Reading

variable {limits : Limits}

theorem eq_some_of_orMalformed {α : Type} {found : Option α} {a : α} (h : orMalformed found = .ok a) :
    found = some a := by
  cases found with
  | none => cases h
  | some other => exact congrArg some (Except.ok.inj h)

/-- A value that stands behind a certain front is what the front stands for. -/
theorem eq_of_orMalformed_map {α : Type} {f : α → Json} {g : α → List Char} {found : Option α}
    {value : Json} {rest : List Char}
    (h : orMalformed (found.map fun a => (f a, g a)) = .ok (value, rest)) :
    ∃ a, value = f a := by
  obtain ⟨a, -, heq⟩ := Option.map_eq_some_iff.mp (eq_some_of_orMalformed h)
  exact ⟨a, (Prod.mk.inj heq).1.symm⟩

theorem of_guard_eq_some {p : Prop} [Decidable p] {done : Unit} (h : guard p = some done) : p := by
  by_contra hp
  rw [guard, if_neg hp] at h
  cases h

theorem isWithin_of_readNumber? {cs rest : List Char} {value : Json}
    (h : readNumber? limits cs = some (value, rest)) : value.IsWithin 0 limits.integer := by
  rw [readNumber?] at h
  dsimp only at h
  split at h
  · cases h
    exact ⟨Nat.zero_le _, Nat.zero_le _⟩
  · rw [List.span_eq_takeWhile_dropWhile] at h
    obtain ⟨_, hne, h⟩ := Option.bind_eq_some_iff.mp h
    obtain ⟨_, -, h⟩ := Option.bind_eq_some_iff.mp h
    obtain ⟨fraction, -, h⟩ := Option.bind_eq_some_iff.mp h
    obtain ⟨exponent, -, h⟩ := Option.bind_eq_some_iff.mp h
    split at h
    · obtain ⟨_, hlength, h⟩ := Option.bind_eq_some_iff.mp h
      cases h
      refine (isWithin_int (List.length_pos_iff.mpr (of_guard_eq_some hne)) ?_).mono (Nat.le_refl _)
        (of_guard_eq_some hlength)
      rw [natAbs_ite]
      exact decimalValue_takeWhile_lt _
    · obtain ⟨_, -, h⟩ := Option.bind_eq_some_iff.mp h
      cases h
      exact ⟨Nat.zero_le _, Nat.zero_le _⟩

mutual

theorem isWithin_of_readValue (fuel levels : Nat) (cs : List Char) (value : Json) (rest : List Char)
    (h : readValue limits fuel levels cs = .ok (value, rest)) :
    value.IsWithin levels limits.integer := by
  cases fuel with
  | zero => cases h
  | succ fuel =>
      rw [readValue] at h
      split at h
      · cases h
      · obtain ⟨text, rfl⟩ := eq_of_orMalformed_map h
        exact ⟨Nat.zero_le _, Nat.zero_le _⟩
      · cases levels with
        | zero => cases h
        | succ levels =>
            simp only at h
            split at h
            · cases h
              exact isWithin_array.mpr nofun
            · exact isWithin_of_readItems fuel levels [] _ value rest nofun h
      · cases levels with
        | zero => cases h
        | succ levels =>
            simp only at h
            split at h
            · cases h
              exact isWithin_object.mpr nofun
            · exact isWithin_of_readMembers fuel levels [] _ value rest nofun h
      · obtain ⟨_, rfl⟩ := eq_of_orMalformed_map h
        exact ⟨Nat.zero_le _, Nat.zero_le _⟩
      · obtain ⟨_, rfl⟩ := eq_of_orMalformed_map h
        exact ⟨Nat.zero_le _, Nat.zero_le _⟩
      · obtain ⟨_, rfl⟩ := eq_of_orMalformed_map h
        exact ⟨Nat.zero_le _, Nat.zero_le _⟩
      · obtain ⟨_, rfl⟩ := eq_of_orMalformed_map h
        exact ⟨Nat.zero_le _, Nat.zero_le _⟩
      · exact (isWithin_of_readNumber? (eq_some_of_orMalformed h)).mono (Nat.zero_le _) (Nat.le_refl _)

theorem isWithin_of_readItems (fuel levels : Nat) (read : List Json) (cs : List Char) (value : Json)
    (rest : List Char) (hread : AreWithin levels limits.integer read)
    (h : readItems limits fuel levels read cs = .ok (value, rest)) :
    value.IsWithin (levels + 1) limits.integer := by
  cases fuel with
  | zero => cases h
  | succ fuel =>
      rw [readItems] at h
      split at h
      · cases h
      · rename_i item behind hitem
        have hfirst := isWithin_of_readValue fuel levels cs item behind hitem
        have hitems : AreWithin levels limits.integer (item :: read) :=
          List.forall_mem_cons.mpr ⟨hfirst, hread⟩
        split at h
        · exact isWithin_of_readItems fuel levels (item :: read) _ value rest hitems h
        · cases h
          exact isWithin_array.mpr fun item hitem => hitems item (List.mem_reverse.mp hitem)
        · cases h

theorem isWithin_of_readMembers (fuel levels : Nat) (read : List (String × Json)) (cs : List Char)
    (value : Json) (rest : List Char) (hread : MembersWithin levels limits.integer read)
    (h : readMembers limits fuel levels read cs = .ok (value, rest)) :
    value.IsWithin (levels + 1) limits.integer := by
  cases fuel with
  | zero => cases h
  | succ fuel =>
      rw [readMembers] at h
      split at h
      · split at h
        · cases h
        · rename_i name _ _
          split at h
          · split at h
            · cases h
            · rename_i member behind hmember
              have hfirst := isWithin_of_readValue fuel levels _ member behind hmember
              split at h
              · exact isWithin_of_readMembers fuel levels _ _ value rest (hread.put hfirst) h
              · cases h
                exact isWithin_object.mpr (hread.put hfirst)
              · cases h
          · cases h
      · cases h

end

/-- **What is read is within the limits of the reader.** -/
theorem isWithin_of_read {text : String} {value : Json} (h : read limits text = .ok value) :
    value.isWithin limits := by
  rw [read] at h
  split at h
  · rename_i found rest hfound
    split_ifs at h
    cases h
    exact isWithin_iff.mpr (isWithin_of_readValue _ _ _ _ _ hfound)
  · cases h

end Reading

end Json
end VectorTiles
