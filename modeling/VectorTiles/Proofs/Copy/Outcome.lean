import VectorTiles.Copy.Writer
import Mathlib.Data.List.Basic
import Mathlib.Tactic.Common

/-!
# What becomes of items

Once a stream has its header, what an item adds does not depend on what stands in front of it: it
adds its bytes, or it fails for a reason of its own.

**Rules.** A writer stops at the first item that fails, whose fault is then the one of the stream. If
no item fails, the trailer follows.

**Results.**

* `Item.addition`, `Item.added`: what an item adds.
* `Writer.writeAll_append`: items that do not fail are written one behind the other.
* `enclosed_of_forall`, `enclosed_of_failing`: the stream of items, and where it ends.
* `completeStream_eq_error_iff`: the fault of a stream that is not complete.
-/

namespace VectorTiles
namespace Copy

section Additions

def Item.isHeader : Item → Bool
  | header => true
  | _ => false

/-- What an item adds to a stream that has its header. -/
def Item.addition : Item → Except Fault (List UInt8)
  | header => .ok []
  | item => item.encode

/-- The bytes of an item that can be written. -/
def Item.added (item : Item) : List UInt8 :=
  item.addition.toOption.getD []

variable {item : Item}

theorem Item.added_eq {bytes : List UInt8} (h : item.addition = .ok bytes) : item.added = bytes := by
  rw [Item.added, h]
  rfl

theorem Item.added_of_error {fault : Fault} (h : item.addition = .error fault) :
    item.added = [] := by
  rw [Item.added, h]
  rfl

theorem Item.addition_eq {bytes : List UInt8} (h : item.addition = .ok bytes) :
    item.addition = .ok item.added := by
  rw [h, Item.added_eq h]

theorem Item.addition_of_isHeader (h : item.isHeader = true) : item.addition = .ok [] := by
  cases item <;> simp_all [Item.isHeader, Item.addition]

/-- Headers add nothing. -/
theorem flatMap_added_filter (items : List Item) :
    (items.filter (!·.isHeader)).flatMap Item.added = items.flatMap Item.added := by
  induction items with
  | nil => rfl
  | cons item items ih =>
      by_cases hheader : item.isHeader = true
      · have hnone : item.added = [] := Item.added_eq (Item.addition_of_isHeader hheader)
        simp [hheader, ih, hnone]
      · simp [hheader, ih]

/-- A property holds of all values of a list, or there is a first one of which it does not. -/
theorem forall_or_exists_first {α : Type} (p : α → Prop) (values : List α) :
    (∀ value ∈ values, p value) ∨
      ∃ front value back, values = front ++ value :: back ∧ (∀ value ∈ front, p value) ∧
        ¬ p value := by
  induction values with
  | nil => exact .inl (List.forall_mem_nil _)
  | cons value values ih =>
      by_cases hvalue : p value
      · rcases ih with hall | ⟨front, other, back, rfl, hfront, hother⟩
        · exact .inl (List.forall_mem_cons.mpr ⟨hvalue, hall⟩)
        · exact .inr ⟨value :: front, other, back, rfl,
            List.forall_mem_cons.mpr ⟨hvalue, hfront⟩, hother⟩
      · exact .inr ⟨[], value, values, rfl, List.forall_mem_nil _, hvalue⟩

/-- All items can be written, or there is a first one that fails. -/
theorem forall_or_exists_failing (items : List Item) :
    (∀ item ∈ items, item.addition = .ok item.added) ∨
      ∃ front item back fault, items = front ++ item :: back ∧
        (∀ item ∈ front, item.addition = .ok item.added) ∧ item.addition = .error fault := by
  rcases forall_or_exists_first (fun item => item.addition = .ok item.added) items with
    hall | ⟨front, item, back, heq, hfront, hfailed⟩
  · exact .inl hall
  · cases hitem : item.addition with
    | ok bytes => exact absurd (Item.addition_eq hitem) hfailed
    | error fault => exact .inr ⟨front, item, back, fault, heq, hfront, hitem⟩

end Additions

section Writers

variable {writer : Writer} {front items : List Item} {item : Item} {fault : Fault}

theorem Writer.addition_of_hasHeader (h : writer.hasHeader = true) (item : Item) :
    writer.addition item = item.addition := by
  cases item <;> simp [Writer.addition, Item.addition, h]

/-- Items that can be written are written one behind the other. -/
theorem Writer.writeAll_append (hheader : writer.hasHeader = true)
    (hfront : ∀ item ∈ front, item.addition = .ok item.added) (rest : List Item) :
    writer.writeAll (front ++ rest) =
      (front.map Item.addition ++
          (Writer.writeAll ⟨writer.stream ++ front.flatMap Item.added, true⟩ rest).1,
        (Writer.writeAll ⟨writer.stream ++ front.flatMap Item.added, true⟩ rest).2) := by
  induction front generalizing writer with
  | nil =>
      obtain ⟨stream, hasHeader⟩ := writer
      obtain rfl : hasHeader = true := hheader
      simp
  | cons first front ih =>
      obtain ⟨hfirst, hothers⟩ := List.forall_mem_cons.mp hfront
      have happend : (writer.append first first.added).hasHeader = true := by
        simp [Writer.append, hheader]
      have hrest := ih happend hothers
      rw [List.cons_append, Writer.writeAll, Writer.addition_of_hasHeader hheader, hfirst]
      simp only [hrest]
      simp [Writer.append, hfirst]

/-- Every item is tried, and what fails adds nothing. -/
theorem Writer.tryAll_eq (hheader : writer.hasHeader = true) (items : List Item) :
    writer.tryAll items =
      (items.map Item.addition, ⟨writer.stream ++ items.flatMap Item.added, true⟩) := by
  induction items generalizing writer with
  | nil =>
      obtain ⟨stream, hasHeader⟩ := writer
      obtain rfl : hasHeader = true := hheader
      simp [Writer.tryAll]
  | cons item items ih =>
      rw [Writer.tryAll, Writer.addition_of_hasHeader hheader]
      cases hitem : item.addition with
      | error fault => simp [ih hheader, hitem, Item.added_of_error hitem]
      | ok bytes =>
          have happend : (writer.append item bytes).hasHeader = true := by
            simp [Writer.append, hheader]
          have hrest := ih happend
          simp only [hrest]
          simp [hitem, Item.added_eq hitem, Writer.append]

end Writers

section Streams

variable {front items : List Item} {item : Item} {fault : Fault}

/-- If no item fails, what they add stands between the header and the trailer. -/
theorem enclosed_of_forall (h : ∀ item ∈ items, item.addition = .ok item.added) :
    enclosed items = (items.map fun item => .ok item.added,
      header ++ (items.flatMap Item.added ++ trailer)) := by
  have hwrite : (Writer.empty.append .header header).writeAll (items ++ []) = _ :=
    Writer.writeAll_append rfl h []
  rw [List.append_nil] at hwrite
  have hnone : (items.map fun item => (.ok item.added : Except Fault _)).any hasFailed = false := by
    simp [hasFailed]
  rw [enclosed, hwrite, List.map_congr_left h]
  simp [Writer.writeAll, hnone, Writer.append, Writer.empty]

theorem completeStream_of_forall (h : ∀ item ∈ items, item.addition = .ok item.added) :
    completeStream items = .ok (enclosed items).2 := by
  simp only [completeStream, enclosed_of_forall h]
  cases hlast : (items.map fun item => (.ok item.added : Except Fault _)).getLast? with
  | none => rfl
  | some outcome =>
      obtain ⟨item, -, rfl⟩ := List.mem_map.mp (List.mem_of_getLast? hlast)
      rfl

/-- The stream of items of which one fails: it ends in front of the first one that does, without a
trailer. -/
theorem enclosed_of_failing (hfront : ∀ item ∈ front, item.addition = .ok item.added)
    (hitem : item.addition = .error fault) (back : List Item) :
    enclosed (front ++ item :: back) =
      (front.map Item.addition ++ [.error fault], header ++ front.flatMap Item.added) := by
  have hwrite : (Writer.empty.append .header header).writeAll (front ++ item :: back) = _ :=
    Writer.writeAll_append rfl hfront (item :: back)
  rw [Writer.writeAll, Writer.addition_of_hasHeader rfl, hitem] at hwrite
  rw [enclosed, hwrite]
  simp [hasFailed, Writer.append, Writer.empty]

theorem completeStream_of_failing (hfront : ∀ item ∈ front, item.addition = .ok item.added)
    (hitem : item.addition = .error fault) (back : List Item) :
    completeStream (front ++ item :: back) = .error fault := by
  simp [completeStream, enclosed_of_failing hfront hitem back]

/-- The fault of a stream that is not complete is the one of the first item that fails. -/
theorem completeStream_eq_error_iff : completeStream items = .error fault ↔
    ∃ front item back, items = front ++ item :: back ∧
      (∀ item ∈ front, item.addition = .ok item.added) ∧ item.addition = .error fault := by
  constructor
  · intro h
    rcases forall_or_exists_failing items with hall | ⟨front, item, back, other, rfl, hfront, hitem⟩
    · rw [completeStream_of_forall hall] at h
      cases h
    · rw [completeStream_of_failing hfront hitem back] at h
      obtain rfl : other = fault := Except.error.inj h
      exact ⟨front, item, back, rfl, hfront, hitem⟩
  · rintro ⟨front, item, back, rfl, hfront, hitem⟩
    exact completeStream_of_failing hfront hitem back

/-- A complete stream has no item that failed. -/
theorem addition_of_completeStream {stream : List UInt8} (h : completeStream items = .ok stream)
    (hitem : item ∈ items) : item.addition = .ok item.added := by
  rcases forall_or_exists_failing items with hall | ⟨front, first, back, fault, rfl, hfront, hfirst⟩
  · exact hall item hitem
  · rw [completeStream_of_failing hfront hfirst back] at h
    cases h

end Streams

end Copy
end VectorTiles
