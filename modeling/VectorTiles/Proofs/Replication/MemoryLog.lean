import VectorTiles.Replication.MemoryLog
import Mathlib.Data.List.Nodup
import Mathlib.Tactic.Common

/-!
# Header logs as ordered maps

**Data.** A log is ordered if its sequence numbers fall strictly. An ordered log has one header for a
key at most, so it is a map from keys to headers.

**Results.**

* `IsOrdered.put`, `IsOrdered.delete` and the like: every change keeps a log ordered.
* `get?_put`, `get?_delete`: a change of the log as a change of the map.
* `duplicates_eq_nil_iff`: which headers can be loaded.
* `IsOrdered.perform`: no request disturbs the order.
-/

namespace VectorTiles
namespace Replication
namespace MemoryLog

/-- The sequence numbers fall strictly. -/
def IsOrdered (log : MemoryLog) : Prop :=
  log.headers.Pairwise fun first second => second.sequenceNumber < first.sequenceNumber

section Lookups

variable {header : Header} {log : MemoryLog} {key : Int}

theorem get?_cons (key : Int) (first : Header) (headers : List Header) :
    get? ⟨first :: headers⟩ key =
      if first.sequenceNumber = key then some first else get? ⟨headers⟩ key := by
  rw [get?, List.find?_cons]
  by_cases h : first.sequenceNumber = key
  · simp [h]
  · rw [if_neg h, beq_false_of_ne h]
    rfl

theorem sequenceNumber_of_get? (h : log.get? key = some header) : header.sequenceNumber = key := by
  simpa using List.find?_some h

/-- The header that is kept takes the place of one with its key. -/
theorem get?_insertHeader (key : Int) (header : Header) (headers : List Header) :
    get? ⟨insertHeader header headers⟩ key =
      if header.sequenceNumber = key then some header else get? ⟨headers⟩ key := by
  induction headers with
  | nil => rw [insertHeader, get?_cons]
  | cons first headers ih =>
      rw [insertHeader]
      by_cases hlt : first.sequenceNumber < header.sequenceNumber
      · rw [if_pos hlt, get?_cons]
      · rw [if_neg hlt]
        by_cases heq : first.sequenceNumber = header.sequenceNumber
        · rw [if_pos heq, get?_cons, get?_cons, heq]
          split_ifs <;> rfl
        · rw [if_neg heq, get?_cons, ih, get?_cons]
          by_cases hfirst : first.sequenceNumber = key
          · have hne : ¬ header.sequenceNumber = key := by omega
            rw [if_pos hfirst, if_neg hne, if_pos hfirst]
          · rw [if_neg hfirst, if_neg hfirst]

theorem get?_put (log : MemoryLog) (header : Header) (key : Int) :
    (log.put header).get? key =
      if header.sequenceNumber = key then some header else log.get? key :=
  get?_insertHeader key header log.headers

theorem get?_delete (log : MemoryLog) (deleted key : Int) :
    (log.delete deleted).get? key = if deleted = key then none else log.get? key := by
  obtain ⟨headers⟩ := log
  induction headers with
  | nil => simp [delete, get?]
  | cons first headers ih =>
      rw [delete] at ih ⊢
      by_cases hfirst : first.sequenceNumber = deleted
      · have hgone : (first.sequenceNumber != deleted) = false := by simp [hfirst]
        rw [List.filter_cons, hgone, if_neg Bool.false_ne_true, ih, get?_cons, hfirst]
        split_ifs <;> rfl
      · have hkept : (first.sequenceNumber != deleted) = true := by simp [hfirst]
        rw [List.filter_cons, hkept, if_pos rfl, get?_cons, ih, get?_cons]
        by_cases hkey : first.sequenceNumber = key
        · have hne : ¬ deleted = key := by omega
          rw [if_pos hkey, if_neg hne, if_pos hkey]
        · rw [if_neg hkey, if_neg hkey]

theorem mem_of_get? (h : log.get? key = some header) : header ∈ log.headers :=
  List.mem_of_find?_eq_some h

end Lookups

section Orders

variable {header other : Header} {headers : List Header} {log : MemoryLog} {key : Int}

theorem mem_insertHeader (h : other ∈ insertHeader header headers) :
    other = header ∨ other ∈ headers := by
  induction headers with
  | nil => simpa [insertHeader] using h
  | cons first headers ih =>
      rw [insertHeader] at h
      split_ifs at h with hlt heq
      · simpa using h
      · rcases List.mem_cons.mp h with rfl | hmem
        · exact .inl rfl
        · exact .inr (List.mem_cons_of_mem _ hmem)
      · rcases List.mem_cons.mp h with rfl | hmem
        · exact .inr List.mem_cons_self
        · exact (ih hmem).imp_right (List.mem_cons_of_mem _)

theorem IsOrdered.empty : IsOrdered MemoryLog.empty :=
  List.Pairwise.nil

theorem IsOrdered.put (h : log.IsOrdered) (header : Header) : (log.put header).IsOrdered := by
  obtain ⟨headers⟩ := log
  induction headers with
  | nil => exact List.pairwise_singleton _ _
  | cons first headers ih =>
      obtain ⟨hfirst, hrest⟩ := List.pairwise_cons.mp h
      rw [MemoryLog.put, insertHeader]
      split_ifs with hlt heq
      · refine List.pairwise_cons.mpr ⟨fun other hother => ?_, h⟩
        rcases List.mem_cons.mp hother with rfl | hmem
        · exact hlt
        · exact Int.lt_trans (hfirst other hmem) hlt
      · exact List.pairwise_cons.mpr ⟨fun other hother => heq ▸ hfirst other hother, hrest⟩
      · refine List.pairwise_cons.mpr ⟨fun other hother => ?_, ih hrest⟩
        rcases mem_insertHeader hother with rfl | hmem
        · omega
        · exact hfirst other hmem

theorem IsOrdered.putMany (h : log.IsOrdered) (headers : List Header) :
    (log.putMany headers).IsOrdered := by
  induction headers generalizing log with
  | nil => exact h
  | cons header headers ih => exact ih (h.put header)

theorem IsOrdered.delete (h : log.IsOrdered) (key : Int) : (log.delete key).IsOrdered :=
  List.Pairwise.filter _ h

theorem IsOrdered.deleteMany (h : log.IsOrdered) (keys : List Int) :
    (log.deleteMany keys).IsOrdered := by
  induction keys generalizing log with
  | nil => exact h
  | cons key keys ih => exact ih (h.delete key)

/-- In an ordered log every header is the one with its key. -/
theorem IsOrdered.get?_of_mem (h : log.IsOrdered) (hmem : header ∈ log.headers) :
    log.get? header.sequenceNumber = some header := by
  obtain ⟨headers⟩ := log
  induction headers with
  | nil => simp at hmem
  | cons first headers ih =>
      obtain ⟨hfirst, hrest⟩ := List.pairwise_cons.mp h
      rw [get?_cons]
      rcases List.mem_cons.mp hmem with rfl | hmem
      · rw [if_pos rfl]
      · have hlt := hfirst header hmem
        rw [if_neg (by omega)]
        exact ih hrest hmem

end Orders

section Loading

variable {log : MemoryLog} {headers : List Header} {keys : List Int}

theorem insertKey_ne_nil (key : Int) (keys : List Int) : insertKey key keys ≠ [] := by
  cases keys with
  | nil => simp [insertKey]
  | cons other keys =>
      rw [insertKey]
      split_ifs <;> simp

theorem foldr_insertKey_eq_nil_iff : keys.foldr insertKey [] = [] ↔ keys = [] := by
  cases keys with
  | nil => simp
  | cons key keys => simp [insertKey_ne_nil]

/-- The keys of the headers are new and different. -/
def Admits (log : MemoryLog) (headers : List Header) : Prop :=
  (headers.map (·.sequenceNumber)).Nodup ∧
    ∀ header ∈ headers, log.get? header.sequenceNumber = none

theorem duplicates_eq_nil_iff : log.duplicates headers = [] ↔ log.Admits headers := by
  rw [Admits, duplicates, foldr_insertKey_eq_nil_iff, List.filter_eq_nil_iff, List.forall_mem_map,
    List.nodup_iff_count_le_one]
  simp only [Bool.or_eq_true, decide_eq_true_eq, not_or, Option.not_isSome_iff_eq_none, Nat.not_lt]
  constructor
  · intro h
    refine ⟨fun key => ?_, fun header hmem => (h header hmem).1⟩
    by_cases hkey : key ∈ headers.map (·.sequenceNumber)
    · obtain ⟨header, hmem, rfl⟩ := List.mem_map.mp hkey
      exact (h header hmem).2
    · rw [List.count_eq_zero_of_not_mem hkey]
      exact Nat.zero_le 1
  · rintro ⟨hcount, hnew⟩ header hmem
    exact ⟨hnew header hmem, hcount _⟩

/-- A load can go on behind its first header. -/
theorem admits_cons {header : Header} : log.Admits (header :: headers) ↔
    log.get? header.sequenceNumber = none ∧ (log.put header).Admits headers := by
  have hput (other : Header) : (log.put header).get? other.sequenceNumber = none ↔
      header.sequenceNumber ≠ other.sequenceNumber ∧ log.get? other.sequenceNumber = none := by
    rw [get?_put]
    split_ifs with hsame <;> simp [hsame]
  simp only [Admits, List.map_cons, List.nodup_cons, List.forall_mem_cons, List.mem_map, hput]
  constructor
  · rintro ⟨⟨hfirst, hnodup⟩, hnew, hothers⟩
    refine ⟨hnew, hnodup, fun other hother => ⟨?_, hothers other hother⟩⟩
    intro hsame
    exact hfirst ⟨other, hother, hsame.symm⟩
  · rintro ⟨hnew, hnodup, hothers⟩
    refine ⟨⟨?_, hnodup⟩, hnew, fun other hother => (hothers other hother).2⟩
    rintro ⟨other, hother, hsame⟩
    exact (hothers other hother).1 hsame.symm

theorem load_of_admits (h : log.Admits headers) : log.load headers = .ok (log.putMany headers) := by
  rw [load, duplicates_eq_nil_iff.mpr h]

theorem load_of_not_admits (h : ¬ log.Admits headers) :
    log.load headers = .error (.duplicates (log.duplicates headers)) := by
  have hkeys : log.duplicates headers ≠ [] := fun hnil => h (duplicates_eq_nil_iff.mp hnil)
  rw [load]
  split
  · contradiction
  · rfl

theorem IsOrdered.perform (h : log.IsOrdered) (operation : Operation) :
    (log.perform operation).2.IsOrdered := by
  cases operation with
  | put header => exact h.put header
  | putMany headers => exact h.putMany headers
  | delete key => exact h.delete key
  | deleteMany keys => exact h.deleteMany keys
  | load headers =>
      rw [MemoryLog.perform]
      by_cases hadmits : log.Admits headers
      · rw [load_of_admits hadmits]
        exact h.putMany headers
      · rw [load_of_not_admits hadmits]
        exact h
  | create => exact h
  | drop => exact h
  | truncate => exact h
  | get key => exact h
  | getMany keys => exact h
  | selectAll => exact h
  | selectLatest => exact h

end Loading

end MemoryLog
end Replication
end VectorTiles
