import VectorTiles.Copy.Stream
import Mathlib.Algebra.Group.Nat.Defs
import Mathlib.Data.List.Basic
import Mathlib.Tactic.Common

/-!
# Framing of bulk load streams

The parts of a stream are read back one after the other, whatever stands behind them: every part says
how long it is before its content begins, so no content can be taken for a count, a null or the
trailer.

**Data.** The fields of a row are null or bytes of less than the length that a field can have.

**Results.**

* `fieldBytes`, `rowBytes`, `streamBytes`: the bytes of fields, rows and whole streams.
* `readField?_append`, `readFields?_append`, `readTuples?_append`: what is read in front of a rest.
* `readRows?_streamBytes`: a stream is read back as its rows.
-/

namespace VectorTiles
namespace Copy

section Words

theorem length_signed (width : Nat) (n : Int) : (signed width n).length = width :=
  Bytes.length_bigEndian _ _

theorem split?_append (front rest : List UInt8) :
    split? front.length (front ++ rest) = some (front, rest) := by
  simp [split?]

/-- The number of a word, whatever stands behind the word. -/
theorem readSigned?_append {width : Nat} {n : Int} (h : Bytes.Fits width n) (rest : List UInt8) :
    readSigned? width (signed width n ++ rest) = some (n, rest) := by
  have hsplit := split?_append (signed width n) rest
  rw [length_signed] at hsplit
  have hpattern : Bytes.ofBigEndian (signed width n) = Bytes.pattern width n :=
    Bytes.ofBigEndian_bigEndian _ _ (Bytes.pattern_lt width n)
  simp only [readSigned?, hsplit, Option.map_some, hpattern, Bytes.ofPattern_pattern _ _ h]

theorem signed?_of_fits {width : Nat} {n : Int} (h : Bytes.Fits width n) :
    signed? width n = some (signed width n) :=
  if_pos h

/-- A size in bytes that a word of four bytes can hold. -/
theorem fits_four {size : Nat} (h : size < 2 ^ 31) : Bytes.Fits 4 size := by
  have hp : Bytes.patterns 4 = 2 ^ 32 := by decide
  rw [Bytes.Fits, hp]
  omega

/-- A number of fields that a word of two bytes can hold. -/
theorem fits_two {count : Nat} (h : count < 2 ^ 15) : Bytes.Fits 2 count := by
  have hp : Bytes.patterns 2 = 2 ^ 16 := by decide
  rw [Bytes.Fits, hp]
  omega

end Words

section Parts

def fieldBytes : Field → List UInt8
  | none => nullField
  | some payload => signed 4 payload.length ++ payload

def rowBytes (row : List Field) : List UInt8 :=
  signed 2 row.length ++ row.flatMap fieldBytes

def streamBytes (rows : List (List Field)) : List UInt8 :=
  header ++ (rows.flatMap rowBytes ++ trailer)

/-- A field whose length can be written. -/
def IsShort (field : Field) : Prop :=
  ∀ payload ∈ field, payload.length < 2 ^ 31

instance (field : Field) : Decidable (IsShort field) :=
  inferInstanceAs (Decidable (∀ _ ∈ field, _))

theorem isShort_none : IsShort none :=
  fun payload hpayload => by cases hpayload

/-- A row whose count and whose lengths can be written. -/
def IsFramed (row : List Field) : Prop :=
  row.length < 2 ^ 15 ∧ ∀ field ∈ row, IsShort field

end Parts

section Reading

variable {field : Field} {row : List Field} {rows : List (List Field)}

theorem readField?_null (rest : List UInt8) : readField? (nullField ++ rest) = some (none, rest) := by
  have hread : readSigned? 4 (nullField ++ rest) = some (-1, rest) :=
    readSigned?_append (by decide) rest
  simp [readField?, hread]

theorem readField?_append (h : IsShort field) (rest : List UInt8) :
    readField? (fieldBytes field ++ rest) = some (field, rest) := by
  cases field with
  | none => exact readField?_null rest
  | some payload =>
      have hread : readSigned? 4 (fieldBytes (some payload) ++ rest) =
          some ((payload.length : Int), payload ++ rest) := by
        rw [fieldBytes, List.append_assoc]
        exact readSigned?_append (fits_four (h payload rfl)) _
      have hnull : ¬ (payload.length : Int) = -1 := by omega
      have hneg : ¬ (payload.length : Int) < 0 := by omega
      simp [readField?, hread, hnull, hneg, split?_append]

theorem readFields?_append (h : ∀ field ∈ row, IsShort field) (rest : List UInt8) :
    readFields? row.length (row.flatMap fieldBytes ++ rest) = some (row, rest) := by
  induction row with
  | nil => rfl
  | cons field row ih =>
      obtain ⟨hfirst, hothers⟩ := List.forall_mem_cons.mp h
      rw [List.length_cons, readFields?, List.flatMap_cons, List.append_assoc,
        readField?_append hfirst]
      simp [ih hothers]

theorem readSigned?_rowBytes_append (h : row.length < 2 ^ 15) (rest : List UInt8) :
    readSigned? 2 (rowBytes row ++ rest) =
      some ((row.length : Int), row.flatMap fieldBytes ++ rest) := by
  rw [rowBytes, List.append_assoc]
  exact readSigned?_append (fits_two h) _

/-- The rows are read up to the trailer if there is fuel for each of them and for the trailer. -/
theorem readTuples?_append (h : ∀ row ∈ rows, IsFramed row) {fuel : Nat} (hfuel : rows.length < fuel) :
    readTuples? fuel (rows.flatMap rowBytes ++ trailer) = some rows := by
  induction rows generalizing fuel with
  | nil =>
      obtain ⟨fuel, rfl⟩ := Nat.exists_eq_add_of_lt hfuel
      have hread : readSigned? 2 (trailer ++ []) = some (-1, []) :=
        readSigned?_append (by decide) []
      rw [List.append_nil] at hread
      simp [readTuples?, hread]
  | cons row rows ih =>
      obtain ⟨hfirst, hothers⟩ := List.forall_mem_cons.mp h
      obtain ⟨fuel, rfl⟩ : ∃ less, fuel = less + 1 := Nat.exists_eq_add_one.mpr (by omega)
      have hend : ¬ (row.length : Int) = -1 := by omega
      have hneg : ¬ (row.length : Int) < 0 := by omega
      have hfuel' : rows.length < fuel := by simpa using hfuel
      rw [List.flatMap_cons, List.append_assoc, readTuples?, readSigned?_rowBytes_append hfirst.1]
      simp [hend, hneg, readFields?_append hfirst.2, ih hothers hfuel']

theorem length_rowBytes_pos (row : List Field) : 0 < (rowBytes row).length := by
  rw [rowBytes, List.length_append, length_signed]
  omega

/-- No row is empty, so a stream has fuel for its rows. -/
theorem length_le_length_flatMap_rowBytes (rows : List (List Field)) :
    rows.length ≤ (rows.flatMap rowBytes).length := by
  induction rows with
  | nil => simp
  | cons row rows ih =>
      have := length_rowBytes_pos row
      simp only [List.length_cons, List.flatMap_cons, List.length_append]
      omega

/-- **A stream is read back as its rows.** -/
theorem readRows?_streamBytes (h : ∀ row ∈ rows, IsFramed row) :
    readRows? (streamBytes rows) = some rows := by
  have hheader : header.isPrefixOf (streamBytes rows) = true := by
    rw [List.isPrefixOf_iff_prefix]
    exact List.prefix_append _ _
  have hdrop : (streamBytes rows).drop header.length = rows.flatMap rowBytes ++ trailer :=
    List.drop_left
  have hfuel : rows.length < (streamBytes rows).length + 1 := by
    have := length_le_length_flatMap_rowBytes rows
    simp only [streamBytes, List.length_append]
    omega
  rw [readRows?, if_pos hheader, hdrop, readTuples?_append h hfuel]

/-- Streams of different rows are different. -/
theorem streamBytes_inj {others : List (List Field)} (h : ∀ row ∈ rows, IsFramed row)
    (hothers : ∀ row ∈ others, IsFramed row) (hstream : streamBytes rows = streamBytes others) :
    rows = others := by
  have hread := readRows?_streamBytes h
  rw [hstream, readRows?_streamBytes hothers] at hread
  exact (Option.some.inj hread).symm

end Reading

end Copy
end VectorTiles
