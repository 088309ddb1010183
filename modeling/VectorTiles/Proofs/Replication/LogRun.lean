import VectorTiles.Proofs.Replication.MemoryLog
import Mathlib.Data.Finmap
import Mathlib.Data.List.Duplicate

/-!
# Runs of a log in memory

**Data.** A map has one header for a key. A request writes to the map: it puts headers and deletes
keys, one after the other. A key offends in a load if the map has it already, or if two headers of the
load have it; a load with such a key writes nothing.

**Rules.** What is put last under a key remains. To delete a key that is not there changes nothing.

**Results.**

* `Header.stored_injective`: no two headers are answered alike.
* `mem_duplicates`, `pairwise_duplicates`: the keys that are reported about a load.
* `IsStoreOf.perform`, `IsStoreOf.after`: a request and a run do to a log what they write to the map.
* `IsStoreOf.isLoaded_perform`: a load as a whole.
* `isStoreOf_after_empty`: what a log answers behind any run.
-/

namespace VectorTiles
namespace Replication

open Database

section Forms

/-- A cell of a value that can be missing tells what the value is. -/
theorem getD_map_injective {α : Type} {f : α → Cell} (hf : Function.Injective f)
    (hnull : ∀ a, f a ≠ .null) :
    Function.Injective fun value : Option α => (value.map f).getD .null := by
  intro first second h
  cases first with
  | none =>
      cases second with
      | none => rfl
      | some b => exact absurd h.symm (hnull b)
  | some a =>
      cases second with
      | none => exact absurd h (hnull a)
      | some b => exact congrArg some (hf h)

theorem timestampCell_injective : Function.Injective timestampCell :=
  getD_map_injective (fun _ _ => Cell.timestamp.inj) (by simp)

theorem textCell_injective : Function.Injective textCell :=
  getD_map_injective (fun _ _ => Cell.text.inj) (by simp)

theorem Header.stored_injective : Function.Injective Header.stored := by
  rintro ⟨⟩ ⟨⟩ h
  obtain ⟨hkey, htimestamp, hurl, hsource, hprogram⟩ := StoredHeader.mk.inj h
  rw [Header.mk.injEq]
  exact ⟨hkey, timestampCell_injective htimestamp, textCell_injective hurl,
    textCell_injective hsource, textCell_injective hprogram⟩

end Forms

section Maps

/-- Headers by their keys. -/
abbrev HeaderMap := Finmap fun _ : Int => Header

/-- A change of a single key. -/
inductive Write where
  | put (header : Header)
  | delete (key : Int)

def keysOf (headers : List Header) : List Int :=
  headers.map (·.sequenceNumber)

namespace HeaderMap

def write (map : HeaderMap) : Write → HeaderMap
  | .put header => map.insert header.sequenceNumber header
  | .delete key => map.erase key

/-- A key of a load that is there already, or that occurs twice. -/
def Offends (map : HeaderMap) (headers : List Header) (key : Int) : Prop :=
  key ∈ keysOf headers ∧ (key ∈ map ∨ List.Duplicate key (keysOf headers))

instance (map : HeaderMap) (headers : List Header) (key : Int) :
    Decidable (map.Offends headers key) :=
  inferInstanceAs (Decidable (_ ∧ _))

/-- What a request writes. -/
def writes (map : HeaderMap) : Operation → List Write
  | .put header => [.put header]
  | .putMany headers => headers.map .put
  | .delete key => [.delete key]
  | .deleteMany keys => keys.map .delete
  | .load headers =>
    if ∀ key ∈ keysOf headers, ¬ map.Offends headers key then headers.map .put else []
  | _ => []

/-- The map behind a request. -/
def perform (map : HeaderMap) (operation : Operation) : HeaderMap :=
  (map.writes operation).foldl write map

def after (map : HeaderMap) (operations : List Operation) : HeaderMap :=
  operations.foldl perform map

end HeaderMap

end Maps

namespace MemoryLog

section Keys

variable {key : Int} {keys : List Int} {log : MemoryLog} {headers : List Header}

theorem mem_insertKey {first : Int} : key ∈ insertKey first keys ↔ key = first ∨ key ∈ keys := by
  induction keys with
  | nil => simp [insertKey]
  | cons other keys ih =>
      rw [insertKey]
      split_ifs with hlt heq
      · simp
      · simp [heq]
      · rw [List.mem_cons, ih, List.mem_cons]
        tauto

theorem pairwise_insertKey (first : Int) (h : keys.Pairwise (· < ·)) :
    (insertKey first keys).Pairwise (· < ·) := by
  induction keys with
  | nil => exact List.pairwise_singleton _ _
  | cons other keys ih =>
      obtain ⟨hother, hrest⟩ := List.pairwise_cons.mp h
      rw [insertKey]
      split_ifs with hlt heq
      · refine List.pairwise_cons.mpr ⟨fun key hkey => ?_, h⟩
        rcases List.mem_cons.mp hkey with rfl | hmem
        · exact hlt
        · exact hlt.trans (hother key hmem)
      · exact h
      · refine List.pairwise_cons.mpr ⟨fun key hkey => ?_, ih hrest⟩
        rcases mem_insertKey.mp hkey with rfl | hmem
        · omega
        · exact hother key hmem

theorem mem_foldr_insertKey : key ∈ keys.foldr insertKey [] ↔ key ∈ keys := by
  induction keys with
  | nil => rfl
  | cons first keys ih => rw [List.foldr_cons, mem_insertKey, ih, List.mem_cons]

theorem pairwise_foldr_insertKey (keys : List Int) : (keys.foldr insertKey []).Pairwise (· < ·) := by
  induction keys with
  | nil => exact .nil
  | cons first keys ih => exact pairwise_insertKey first ih

/-- The keys that are reported are those that the log has, and those that occur twice. -/
theorem mem_duplicates : key ∈ log.duplicates headers ↔
    key ∈ keysOf headers ∧ ((log.get? key).isSome ∨ List.Duplicate key (keysOf headers)) := by
  rw [duplicates, mem_foldr_insertKey, List.mem_filter, Bool.or_eq_true, decide_eq_true_eq,
    List.duplicate_iff_two_le_count]
  rfl

/-- Each of them is reported once, in ascending order. -/
theorem pairwise_duplicates (log : MemoryLog) (headers : List Header) :
    (log.duplicates headers).Pairwise (· < ·) :=
  pairwise_foldr_insertKey _

theorem get?_putMany_of_notMem (h : key ∉ keysOf headers) :
    (log.putMany headers).get? key = log.get? key := by
  induction headers generalizing log with
  | nil => rfl
  | cons header headers ih =>
      have hfirst : header.sequenceNumber ≠ key := fun heq => h (heq ▸ List.mem_cons_self)
      have hrest : key ∉ keysOf headers := fun hmem => h (List.mem_cons_of_mem _ hmem)
      have hbehind : ((log.put header).putMany headers).get? key = (log.put header).get? key :=
        ih hrest
      exact hbehind.trans ((get?_put log header key).trans (if_neg hfirst))

theorem get?_putMany_of_mem {header : Header} (hnodup : (keysOf headers).Nodup)
    (h : header ∈ headers) :
    (log.putMany headers).get? header.sequenceNumber = some header := by
  induction headers generalizing log with
  | nil => cases h
  | cons first headers ih =>
      obtain ⟨hfirst, hrest⟩ := List.nodup_cons.mp hnodup
      rcases List.mem_cons.mp h with rfl | hmem
      · -- No later header has this key.
        exact (get?_putMany_of_notMem hfirst).trans ((get?_put log header _).trans (if_pos rfl))
      · exact ih hrest hmem

end Keys

section Stores

/-- A log keeps the headers of a map in their order. -/
structure IsStoreOf (log : MemoryLog) (map : HeaderMap) : Prop where
  isOrdered : log.IsOrdered
  get?_eq : ∀ key, log.get? key = map.lookup key

variable {log : MemoryLog} {map : HeaderMap} {headers : List Header} {header : Header}

theorem isStoreOf_empty : empty.IsStoreOf ∅ :=
  ⟨IsOrdered.empty, fun _ => rfl⟩

/-- The headers of the log are those of the map. -/
theorem IsStoreOf.mem_iff (h : log.IsStoreOf map) :
    header ∈ log.headers ↔ map.lookup header.sequenceNumber = some header := by
  rw [← h.get?_eq]
  exact ⟨h.isOrdered.get?_of_mem, mem_of_get?⟩

theorem IsStoreOf.isSome_iff (h : log.IsStoreOf map) (key : Int) :
    (log.get? key).isSome ↔ key ∈ map := by
  rw [h.get?_eq, Finmap.lookup_isSome]

theorem IsStoreOf.put (h : log.IsStoreOf map) (header : Header) :
    (log.put header).IsStoreOf (map.write (.put header)) where
  isOrdered := h.isOrdered.put header
  get?_eq key := by
    rw [get?_put, HeaderMap.write, h.get?_eq]
    split_ifs with hkey
    · rw [← hkey, Finmap.lookup_insert]
    · rw [Finmap.lookup_insert_of_ne map (Ne.symm hkey)]

theorem IsStoreOf.delete (h : log.IsStoreOf map) (deleted : Int) :
    (log.delete deleted).IsStoreOf (map.write (.delete deleted)) where
  isOrdered := h.isOrdered.delete deleted
  get?_eq key := by
    rw [get?_delete, HeaderMap.write, h.get?_eq]
    split_ifs with hkey
    · rw [← hkey, Finmap.lookup_erase]
    · rw [Finmap.lookup_erase_ne (Ne.symm hkey)]

theorem IsStoreOf.putMany (h : log.IsStoreOf map) (headers : List Header) :
    (log.putMany headers).IsStoreOf ((headers.map Write.put).foldl HeaderMap.write map) := by
  induction headers generalizing log map with
  | nil => exact h
  | cons header headers ih => exact ih (h.put header)

theorem IsStoreOf.deleteMany (h : log.IsStoreOf map) (keys : List Int) :
    (log.deleteMany keys).IsStoreOf ((keys.map Write.delete).foldl HeaderMap.write map) := by
  induction keys generalizing log map with
  | nil => exact h
  | cons key keys ih => exact ih (h.delete key)

/-- The keys that are reported about a load are those that offend. -/
theorem IsStoreOf.mem_duplicates (h : log.IsStoreOf map) (key : Int) :
    key ∈ log.duplicates headers ↔ map.Offends headers key := by
  rw [MemoryLog.mem_duplicates, h.isSome_iff]
  rfl

theorem IsStoreOf.admits_iff (h : log.IsStoreOf map) :
    log.Admits headers ↔ ∀ key, ¬ map.Offends headers key := by
  rw [← duplicates_eq_nil_iff, List.eq_nil_iff_forall_not_mem]
  exact forall_congr' fun key => not_congr (h.mem_duplicates key)

/-- The outcome of a load, and the log behind it. -/
inductive IsLoaded (log : MemoryLog) (map : HeaderMap) (headers : List Header) :
    Except LogFault Answer × MemoryLog → Prop
  | refused {keys : List Int} (hne : keys ≠ []) (hascending : keys.Pairwise (· < ·))
      (hmem : ∀ key, key ∈ keys ↔ map.Offends headers key) :
      IsLoaded log map headers (.error (.duplicates keys), log)
  | loaded {behind : MemoryLog} (hnone : ∀ key, ¬ map.Offends headers key)
      (hheaders : ∀ header ∈ headers, behind.get? header.sequenceNumber = some header)
      (hothers : ∀ key ∉ keysOf headers, behind.get? key = map.lookup key) :
      IsLoaded log map headers (.ok .done, behind)

/-- **A load takes all headers or none.** It is refused exactly if a key offends; then all such keys
are reported, and the log is left as it is. -/
theorem IsStoreOf.isLoaded_perform (h : log.IsStoreOf map) (headers : List Header) :
    IsLoaded log map headers (log.perform (.load headers)) := by
  rw [MemoryLog.perform]
  by_cases hadmits : log.Admits headers
  · rw [load_of_admits hadmits]
    refine .loaded (h.admits_iff.mp hadmits) (fun header hmem => ?_) fun key hkey => ?_
    · exact get?_putMany_of_mem hadmits.1 hmem
    · rw [get?_putMany_of_notMem hkey, h.get?_eq]
  · rw [load_of_not_admits hadmits]
    exact .refused (fun hnil => hadmits (duplicates_eq_nil_iff.mp hnil))
      (pairwise_duplicates log headers) h.mem_duplicates

/-- **A request does to a log what it writes to the map.** -/
theorem IsStoreOf.perform (h : log.IsStoreOf map) (operation : Operation) :
    (log.perform operation).2.IsStoreOf (map.perform operation) := by
  cases operation with
  | put header => exact h.put header
  | putMany headers => exact h.putMany headers
  | delete key => exact h.delete key
  | deleteMany keys => exact h.deleteMany keys
  | load headers =>
      have hloads : log.Admits headers ↔ ∀ key ∈ keysOf headers, ¬ map.Offends headers key :=
        h.admits_iff.trans ⟨fun hnone key _ => hnone key, fun hnone key hkey => hnone key hkey.1 hkey⟩
      rw [MemoryLog.perform, HeaderMap.perform, HeaderMap.writes]
      by_cases hadmits : log.Admits headers
      · rw [load_of_admits hadmits, if_pos (hloads.mp hadmits)]
        exact h.putMany headers
      · rw [load_of_not_admits hadmits, if_neg (mt hloads.mpr hadmits)]
        exact h
  | create => exact h
  | drop => exact h
  | truncate => exact h
  | get key => exact h
  | getMany keys => exact h
  | selectAll => exact h
  | selectLatest => exact h

end Stores

section Runs

variable {log : MemoryLog} {map : HeaderMap}

/-- The log behind requests. -/
def after (log : MemoryLog) (operations : List Operation) : MemoryLog :=
  operations.foldl (fun log operation => (log.perform operation).2) log

theorem IsStoreOf.after (h : log.IsStoreOf map) (operations : List Operation) :
    (log.after operations).IsStoreOf (map.after operations) := by
  induction operations generalizing log map with
  | nil => exact h
  | cons operation operations ih => exact ih (h.perform operation)

/-- What a log with the headers of a map answers. -/
structure AnswersAs (log : MemoryLog) (map : HeaderMap) : Prop where
  /-- What is answered tells which headers are meant. -/
  stored_injective : Function.Injective Header.stored
  get : ∀ key, (log.perform (.get key)).1 =
    .ok (.header ((map.lookup key).map Header.stored))
  getMany : ∀ keys, (log.perform (.getMany keys)).1 =
    .ok (.headers (keys.map fun key => (map.lookup key).map Header.stored))
  /-- All headers are listed once, and the latest one is the first of them. -/
  exists_listing : ∃ headers : List Header,
    headers.Pairwise (fun first second => second.sequenceNumber < first.sequenceNumber) ∧
    (∀ header, header ∈ headers ↔ map.lookup header.sequenceNumber = some header) ∧
    (log.perform .selectAll).1 = .ok (.headers (headers.map fun header => some header.stored)) ∧
    (log.perform .selectLatest).1 = .ok (.header (headers.head?.map Header.stored))
  /-- There is no latest header exactly if there is none. -/
  latest_eq_none_iff : (log.perform .selectLatest).1 = .ok (.header none) ↔ map = ∅
  /-- No header has a greater key than the latest one. -/
  exists_latest : map ≠ ∅ → ∃ header, map.lookup header.sequenceNumber = some header ∧
    (log.perform .selectLatest).1 = .ok (.header (some header.stored)) ∧
    ∀ key ∈ map, key ≤ header.sequenceNumber
  isLoaded : ∀ headers, IsLoaded log map headers (log.perform (.load headers))

theorem IsStoreOf.headers_eq_nil_iff (h : log.IsStoreOf map) : log.headers = [] ↔ map = ∅ := by
  constructor
  · intro hnil
    refine Finmap.ext_lookup fun key => ?_
    rw [← h.get?_eq, get?, hnil]
    rfl
  · rintro rfl
    refine List.eq_nil_iff_forall_not_mem.mpr fun header hmem => ?_
    cases h.mem_iff.mp hmem

/-- The first header has the greatest key. -/
theorem IsStoreOf.le_head (h : log.IsStoreOf map) {first : Header} {rest : List Header}
    (hheaders : log.headers = first :: rest) {key : Int} (hkey : key ∈ map) :
    key ≤ first.sequenceNumber := by
  obtain ⟨header, hlookup⟩ := Finmap.mem_iff.mp hkey
  have hget : log.get? key = some header := (h.get?_eq key).trans hlookup
  obtain rfl := sequenceNumber_of_get? hget
  have hordered := h.isOrdered
  rw [IsOrdered, hheaders, List.pairwise_cons] at hordered
  rcases List.mem_cons.mp (hheaders ▸ mem_of_get? hget) with rfl | hmem
  · exact Int.le_refl _
  · exact (hordered.1 header hmem).le

theorem IsStoreOf.answersAs (h : log.IsStoreOf map) : log.AnswersAs map where
  stored_injective := Header.stored_injective
  get key := by rw [MemoryLog.perform, h.get?_eq]
  getMany keys := by simp only [MemoryLog.perform, h.get?_eq]
  exists_listing := ⟨log.headers, h.isOrdered, fun _ => h.mem_iff, rfl, rfl⟩
  latest_eq_none_iff := by
    rw [← h.headers_eq_nil_iff, MemoryLog.perform, latest?]
    cases log.headers <;> simp
  exists_latest hne := by
    obtain ⟨first, rest, hheaders⟩ := List.exists_cons_of_ne_nil (mt h.headers_eq_nil_iff.mp hne)
    refine ⟨first, h.mem_iff.mp (hheaders ▸ List.mem_cons_self), ?_, fun _ => h.le_head hheaders⟩
    rw [MemoryLog.perform, latest?, hheaders]
    rfl
  isLoaded := h.isLoaded_perform

/-- **A log in memory is an ordered map.** Behind any requests it keeps what they wrote to the map, in
descending order of the keys, and it answers as the map says. A load is all or nothing, and tells
which keys are in its way. -/
theorem isStoreOf_after_empty (operations : List Operation) :
    (MemoryLog.empty.after operations).IsStoreOf (HeaderMap.after ∅ operations) ∧
      (MemoryLog.empty.after operations).AnswersAs (HeaderMap.after ∅ operations) := by
  have hstore := isStoreOf_empty.after operations
  exact ⟨hstore, hstore.answersAs⟩

example :
    let header (key : Int) : Header := ⟨key, none, none, none, none⟩
    let log := empty.after [.put (header 5), .putMany [header 9, header 5], .delete 9]
    log.perform (.load [header 7, header 5, header 2, header 2]) =
      (.error (.duplicates [2, 5]), log) := by
  decide

end Runs

end MemoryLog
end Replication
end VectorTiles
