import VectorTiles.Schema.Convert
import Mathlib.Algebra.Group.Nat.Defs
import Mathlib.Data.List.TakeDrop
import Mathlib.Data.List.TakeWhile
import Mathlib.Tactic.Common

/-!
# Whole numbers in texts

A whole number is read from its decimal numeral.

**Data.** A plain numeral has digits only, of which only a lone one is a leading zero.

**Rules.** Lenient spellings are made plain before they are read. A numeral that is plain already
stays as it is.

**Results.**

* `plainNumeral?_signed`: a plain numeral behind a sign stays as it is.
* `integerOfText_toString`: what is read from the numeral of a whole number.
-/

namespace VectorTiles
namespace Schema

section PlainNumerals

/-- Digits that can be read as a number. -/
structure IsPlain (digits : List Char) : Prop where
  isDigit : ∀ c ∈ digits, c.isDigit = true
  ne_nil : digits ≠ []
  length_le : digits.length ≤ numeralLimit
  length_eq_one : digits.head? = some '0' → digits.length = 1

/-- The characters of a number with these digits. -/
def signed (negative : Bool) (digits : List Char) : List Char :=
  if negative then '-' :: digits else digits

variable {digits : List Char} {c : Char}

theorem ne_of_isDigit (hc : c.isDigit = true) {other : Char} (hother : other.isDigit = false) :
    c ≠ other := by
  rintro rfl
  rw [hc] at hother
  cases hother

theorem IsPlain.notMem (h : IsPlain digits) (hc : c.isDigit = false) : c ∉ digits :=
  fun hmem => ne_of_isDigit (h.isDigit c hmem) hc rfl

theorem IsPlain.exists_cons (h : IsPlain digits) :
    ∃ first rest, digits = first :: rest ∧ first.isDigit = true := by
  cases digits with
  | nil => exact absurd rfl h.ne_nil
  | cons first rest => exact ⟨first, rest, rfl, h.isDigit first List.mem_cons_self⟩

theorem splitMinus_signed (h : IsPlain digits) (negative : Bool) :
    splitMinus (signed negative digits) = (negative, digits) := by
  obtain ⟨first, rest, rfl, hfirst⟩ := h.exists_cons
  cases negative with
  | true => rfl
  | false =>
      rw [signed, if_neg Bool.false_ne_true, splitMinus]
      rintro _ heq
      exact absurd (List.cons.inj heq).1 (ne_of_isDigit hfirst rfl)

theorem mem_signed (h : IsPlain digits) {negative : Bool} (hc : c ∈ signed negative digits) :
    c = '-' ∨ c.isDigit = true := by
  cases negative with
  | true =>
      rcases List.mem_cons.mp hc with rfl | hc
      · exact .inl rfl
      · exact .inr (h.isDigit c hc)
  | false => exact .inr (h.isDigit c hc)

theorem signed_ne_nil (h : IsPlain digits) (negative : Bool) : signed negative digits ≠ [] := by
  cases negative with
  | true => exact List.cons_ne_nil _ _
  | false => exact h.ne_nil

theorem isWhiteSpace_eq_false (hc : c.isDigit = true) : Text.isWhiteSpace c = false := by
  simp only [Char.isDigit, Bool.and_eq_true, decide_eq_true_eq] at hc
  have hlow : 48 ≤ c.toNat := hc.1
  have hhigh : c.toNat ≤ 57 := hc.2
  simp only [Text.isWhiteSpace, Bool.or_eq_false_iff, Bool.and_eq_false_iff, decide_eq_false_iff_not,
    beq_eq_false_iff_ne]
  omega

theorem trimBoth_eq_self {α : Type} {p : α → Bool} {xs : List α} (h : ∀ x ∈ xs, p x = false) :
    Text.trimBoth p xs = xs := by
  have hdrop {ys : List α} (hys : ∀ y ∈ ys, p y = false) : ys.dropWhile p = ys := by
    cases ys with
    | nil => rfl
    | cons y ys => rw [List.dropWhile_cons_of_neg (by simp [hys y List.mem_cons_self])]
  rw [Text.trimBoth, hdrop h, hdrop (by simpa using h), List.reverse_reverse]

theorem trimBoth_signed (h : IsPlain digits) (negative : Bool) :
    Text.trimBoth Text.isWhiteSpace (signed negative digits) = signed negative digits := by
  refine trimBoth_eq_self fun c hc => ?_
  rcases mem_signed h hc with rfl | hdigit
  · rfl
  · exact isWhiteSpace_eq_false hdigit

theorem withoutPlus?_signed (h : IsPlain digits) (negative : Bool) :
    withoutPlus? (signed negative digits) = some (signed negative digits) := by
  have hplus : '+' ∉ signed negative digits := by
    intro hmem
    rcases mem_signed h hmem with hminus | hdigit
    · cases hminus
    · cases hdigit
  rw [withoutPlus?]
  · rintro rest heq
    exact hplus (heq ▸ List.mem_cons_self)
  · rintro rest heq
    exact hplus (heq ▸ List.mem_cons_self)

theorem withoutLeadingZeros?_of_isPlain (h : IsPlain digits) :
    withoutLeadingZeros? digits = some digits := by
  obtain ⟨first, rest, rfl, hfirst⟩ := h.exists_cons
  by_cases hzero : first = '0'
  · subst hzero
    obtain rfl : rest = [] := by simpa using h.length_eq_one rfl
    rfl
  · rw [withoutLeadingZeros?, if_pos hfirst]
    exact hzero

theorem withoutZeroFraction_of_isPlain (h : IsPlain digits) : withoutZeroFraction digits = digits := by
  have hpoint : ∀ c ∈ digits, (c != '.') = true := by
    intro c hc
    have hne : c ≠ '.' := ne_of_isDigit (h.isDigit c hc) rfl
    exact bne_iff_ne.mpr hne
  have hrest : digits.dropWhile (· != '.') = [] := List.dropWhile_eq_nil_iff.mpr hpoint
  rw [withoutZeroFraction, List.span_eq_takeWhile_dropWhile, hrest]

theorem hasDoubleUnderscore_eq_false {cs : List Char} (h : '_' ∉ cs) :
    hasDoubleUnderscore cs = false := by
  induction cs with
  | nil => rfl
  | cons c cs ih =>
      rw [List.mem_cons, not_or] at h
      rw [hasDoubleUnderscore]
      · exact ih h.2
      · rintro rest rfl
        exact absurd rfl h.1

theorem withoutUnderscores?_of_isPlain (h : IsPlain digits) :
    withoutUnderscores? digits = some digits := by
  have hmem : '_' ∉ digits := h.notMem rfl
  have hhead : digits.head? ≠ some '_' := fun heq => hmem (List.mem_of_head? heq)
  have hlast : digits.getLast? ≠ some '_' := fun heq => hmem (List.mem_of_getLast? heq)
  have hfilter : digits.filter (· != '_') = digits := by
    refine List.filter_eq_self.mpr fun c hc => bne_iff_ne.mpr ?_
    rintro rfl
    exact hmem hc
  rw [withoutUnderscores?, hasDoubleUnderscore_eq_false hmem, hfilter]
  simp [hhead, hlast]

/-- A plain numeral behind a sign stays as it is. -/
theorem plainNumeral?_signed (h : IsPlain digits) (negative : Bool) :
    plainNumeral? (signed negative digits) = some (signed negative digits) := by
  rw [plainNumeral?, trimBoth_signed h, withoutPlus?_signed h]
  simp only [Option.bind_eq_bind, Option.bind_some, splitMinus_signed h,
    withoutLeadingZeros?_of_isPlain h, withoutZeroFraction_of_isPlain h,
    withoutUnderscores?_of_isPlain h, Option.getD_some]
  rfl

theorem readNumeral?_signed (h : IsPlain digits) (negative : Bool) :
    readNumeral? (signed negative digits) =
      some (if negative then -Int.ofNat (Text.decimalValue digits)
        else Int.ofNat (Text.decimalValue digits)) := by
  have hempty : digits.isEmpty = false := List.isEmpty_eq_false_iff.mpr h.ne_nil
  have hall : digits.all Char.isDigit = true := List.all_eq_true.mpr h.isDigit
  have hlength : ¬ numeralLimit < digits.length := Nat.not_lt.mpr h.length_le
  have hzero : ¬ (digits.head? = some '0' ∧ digits.length ≠ 1) :=
    fun hboth => hboth.2 (h.length_eq_one hboth.1)
  have hreadable : (digits.isEmpty || !digits.all Char.isDigit || numeralLimit < digits.length ||
      (digits.head? = some '0' && digits.length ≠ 1)) = false := by
    rw [hempty, hall, decide_eq_false hlength, ← Bool.decide_and, decide_eq_false hzero]
    rfl
  rw [readNumeral?, splitMinus_signed h]
  simp only [hreadable]
  rfl

theorem beginsOversized_signed (h : IsPlain digits) (negative : Bool) :
    beginsOversized (signed negative digits) = false := by
  have htake : digits.takeWhile Char.isDigit = digits := List.takeWhile_eq_self_iff.mpr h.isDigit
  have hlength : ¬ numeralLimit < digits.length := Nat.not_lt.mpr h.length_le
  rw [beginsOversized, splitMinus_signed h]
  simp [htake, hlength]

end PlainNumerals

section Numerals

theorem digitChar_ne_zero : ∀ n < 10, Nat.digitChar n = '0' → n = 0 := by
  decide

theorem eq_zero_of_head?_toDigits {n : Nat} (h : (Nat.toDigits 10 n).head? = some '0') : n = 0 := by
  induction n using Nat.strongRecOn with
  | _ n ih =>
      rw [Nat.toDigits_eq_if (by decide)] at h
      split_ifs at h with hlt
      · exact digitChar_ne_zero n hlt (Option.some.inj h)
      · have hne : Nat.toDigits 10 (n / 10) ≠ [] := List.ne_nil_of_length_pos Nat.length_toDigits_pos
        obtain ⟨first, rest, hdigits⟩ := List.exists_cons_of_ne_nil hne
        have hhead : (Nat.toDigits 10 (n / 10)).head? = some '0' := by
          rw [hdigits] at h ⊢
          exact h
        have hzero : n / 10 = 0 := ih (n / 10) (by omega) hhead
        omega

theorem isPlain_toDigits {n : Nat} (h : n < 10 ^ numeralLimit) : IsPlain (Nat.toDigits 10 n) where
  isDigit c hc := Nat.isDigit_of_mem_toDigits (by decide) (by decide) hc
  ne_nil := List.ne_nil_of_length_pos Nat.length_toDigits_pos
  length_le := (Nat.length_toDigits_le_iff (by decide) (by decide)).mpr h
  length_eq_one hhead := by
    rw [eq_zero_of_head?_toDigits hhead]
    rfl

theorem toList_toString (n : Int) :
    (toString n).toList = signed (decide (n < 0)) (Nat.toDigits 10 n.natAbs) := by
  have hrepr : toString n = n.repr := rfl
  have hdigits : n.natAbs.repr.toList = Nat.toDigits 10 n.natAbs := by
    rw [Nat.repr_eq_ofList_toDigits, String.toList_ofList]
  rw [hrepr, Int.repr_eq_if, signed]
  by_cases hn : 0 ≤ n
  · have habs : n.toNat = n.natAbs := by omega
    rw [if_pos hn, habs, hdigits, decide_eq_false (Int.not_lt.mpr hn), if_neg Bool.false_ne_true]
  · have habs : (-n).toNat = n.natAbs := by omega
    rw [if_neg hn, habs, String.toList_append, hdigits, decide_eq_true (Int.not_le.mp hn), if_pos rfl]
    rfl

/-- **A whole number is read from its numeral.** -/
theorem integerOfText_toString {n : Int} (h : n.natAbs < 10 ^ numeralLimit) :
    integerOfText (toString n) = .ok n := by
  have hplain := isPlain_toDigits h
  have hvalue : Text.decimalValue (Nat.toDigits 10 n.natAbs) = n.natAbs :=
    Nat.ofDigitChars_toDigits (by decide) (by decide)
  rw [integerOfText, toList_toString, beginsOversized_signed hplain, plainNumeral?_signed hplain]
  simp only [Option.bind_eq_bind, Option.bind_some, readNumeral?_signed hplain, hvalue]
  by_cases hn : n < 0
  · have hsign : -(n.natAbs : Int) = n := by omega
    simpa [hn] using hsign
  · have hsign : (n.natAbs : Int) = n := by omega
    simpa [hn] using hsign

end Numerals

end Schema
end VectorTiles
