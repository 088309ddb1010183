/-!
# Words of bytes

Numbers of a fixed width as lists of bytes, in both orders.

**Results.**

* `bigEndian`, `littleEndian`: the bytes of a number; `ofBigEndian`, `ofLittleEndian` read them.
* `pattern`, `ofPattern`: signed numbers in two's complement.
* `ofBigEndian_bigEndian`, `ofPattern_pattern`: reading undoes writing for numbers that fit.
-/

namespace VectorTiles
namespace Bytes

/-- The last `width` bytes of a number, the most significant one first. -/
def bigEndian : Nat → Nat → List UInt8
  | 0, _ => []
  | width + 1, n => bigEndian width (n / 256) ++ [UInt8.ofNat n]

/-- The last `width` bytes of a number, the least significant one first. -/
def littleEndian : Nat → Nat → List UInt8
  | 0, _ => []
  | width + 1, n => UInt8.ofNat n :: littleEndian width (n / 256)

/-- The number whose bytes are given, the least significant one first. -/
def ofLittleEndian : List UInt8 → Nat
  | [] => 0
  | b :: rest => b.toNat + 256 * ofLittleEndian rest

/-- The number whose bytes are given, the most significant one first. -/
def ofBigEndian (bytes : List UInt8) : Nat :=
  ofLittleEndian bytes.reverse

def patterns (width : Nat) : Nat :=
  Nat.pow 256 width

/-- Whether a signed number fits into a width in bytes. -/
def Fits (width : Nat) (n : Int) : Prop :=
  -(patterns width : Int) ≤ 2 * n ∧ 2 * n < patterns width

instance (width : Nat) (n : Int) : Decidable (Fits width n) :=
  inferInstanceAs (Decidable (_ ∧ _))

/-- The pattern of a signed number in two's complement. -/
def pattern (width : Nat) (n : Int) : Nat :=
  (n % (patterns width : Int)).toNat

/-- The signed number of a pattern in two's complement. -/
def ofPattern (width n : Nat) : Int :=
  if 2 * n < patterns width then n else (n : Int) - patterns width

section Lemmas

theorem length_bigEndian (width n : Nat) : (bigEndian width n).length = width := by
  induction width generalizing n with
  | zero => rfl
  | succ width ih => simp [bigEndian, ih]

theorem length_littleEndian (width n : Nat) : (littleEndian width n).length = width := by
  induction width generalizing n with
  | zero => rfl
  | succ width ih => simp [littleEndian, ih]

theorem reverse_bigEndian (width n : Nat) :
    (bigEndian width n).reverse = littleEndian width n := by
  induction width generalizing n with
  | zero => rfl
  | succ width ih => simp [bigEndian, littleEndian, ih]

theorem ofLittleEndian_littleEndian (width n : Nat) (h : n < patterns width) :
    ofLittleEndian (littleEndian width n) = n := by
  induction width generalizing n with
  | zero =>
    have : n = 0 := by simpa [patterns] using h
    simp [littleEndian, ofLittleEndian, this]
  | succ width ih =>
    have hq : n / 256 < patterns width := by
      have : n < 256 * patterns width := by
        simpa [patterns, Nat.pow_succ, Nat.mul_comm] using h
      exact Nat.div_lt_of_lt_mul this
    simp only [littleEndian, ofLittleEndian, ih _ hq, UInt8.toNat_ofNat']
    omega

theorem ofBigEndian_bigEndian (width n : Nat) (h : n < patterns width) :
    ofBigEndian (bigEndian width n) = n := by
  rw [ofBigEndian, reverse_bigEndian, ofLittleEndian_littleEndian width n h]

theorem patterns_pos (width : Nat) : 0 < patterns width :=
  Nat.pow_pos (by decide)

theorem pattern_lt (width : Nat) (n : Int) : pattern width n < patterns width := by
  have hp := patterns_pos width
  have h := Int.emod_lt_of_pos n (b := patterns width) (by omega)
  have h' := Int.emod_nonneg n (b := patterns width) (by omega)
  unfold pattern
  omega

theorem ofPattern_pattern (width : Nat) (n : Int) (h : Fits width n) :
    ofPattern width (pattern width n) = n := by
  have hp := patterns_pos width
  obtain ⟨hlow, hhigh⟩ := h
  unfold ofPattern pattern
  by_cases hn : 0 ≤ n
  · rw [Int.emod_eq_of_lt hn (by omega)]
    split <;> omega
  · have : n % (patterns width : Int) = n + patterns width := by
      rw [← Int.add_emod_right, Int.emod_eq_of_lt (by omega) (by omega)]
    rw [this]
    split <;> omega

end Lemmas

end Bytes
end VectorTiles
