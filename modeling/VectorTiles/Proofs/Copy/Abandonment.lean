import VectorTiles.Proofs.Copy.RoundTrip

/-!
# Streams that are left by an error

The trailer is written when nothing has gone wrong. Whether it is missing cannot be seen from the
last bytes, for a payload may look like a trailer.

**Data.** Operations write rows if a row begins only when no field of the one before is missing, and
a field comes only when one is missing. Headers may be asked for at any place, and operations may
fail at any place. Then the stream is left: at once, or after more operations.

**Results.**

* `readRows?_append_eq_none`: nothing may stand behind a complete stream.
* `IsRowwise.exists_completion`: what operations have written can be gone on with to a complete
  stream.
* `readRows?_abandoned`: so what is left by an error is not complete.
-/

namespace VectorTiles
namespace Copy

section Extending

variable {bytes rest : List UInt8}

/-- What has been read from bytes is read from more bytes, too, and the additional ones are left. -/
theorem split?_extend {count : Nat} {front : List UInt8}
    (h : split? count bytes = some (front, rest)) (extra : List UInt8) :
    split? count (bytes ++ extra) = some (front, rest ++ extra) := by
  rw [split?] at h
  split_ifs at h with hcount
  · cases h
    have hmore : count ≤ (bytes ++ extra).length := by
      rw [List.length_append]
      omega
    rw [split?, if_pos hmore, List.take_append_of_le_length hcount,
      List.drop_append_of_le_length hcount]

theorem readSigned?_extend {width : Nat} {n : Int} (h : readSigned? width bytes = some (n, rest))
    (extra : List UInt8) : readSigned? width (bytes ++ extra) = some (n, rest ++ extra) := by
  rw [readSigned?, Option.map_eq_some_iff] at h
  obtain ⟨⟨word, behind⟩, hsplit, heq⟩ := h
  cases heq
  rw [readSigned?, split?_extend hsplit extra]
  rfl

theorem readField?_extend {field : Field} (h : readField? bytes = some (field, rest))
    (extra : List UInt8) : readField? (bytes ++ extra) = some (field, rest ++ extra) := by
  simp only [readField?, Option.bind_eq_bind, Option.bind_eq_some_iff] at h
  obtain ⟨⟨length, behind⟩, hlength, hrest⟩ := h
  simp only [readField?, Option.bind_eq_bind, readSigned?_extend hlength extra, Option.bind_some]
  split_ifs at hrest with hnull hneg
  · cases hrest
    rw [if_pos hnull]
    rfl
  · obtain ⟨⟨payload, last⟩, hsplit, heq⟩ := Option.bind_eq_some_iff.mp hrest
    cases heq
    rw [if_neg hnull, if_neg hneg, split?_extend hsplit extra]
    rfl

theorem readFields?_extend {count : Nat} {row : List Field}
    (h : readFields? count bytes = some (row, rest)) (extra : List UInt8) :
    readFields? count (bytes ++ extra) = some (row, rest ++ extra) := by
  induction count generalizing bytes row with
  | zero =>
      cases h
      rfl
  | succ count ih =>
      simp only [readFields?, Option.bind_eq_bind, Option.bind_eq_some_iff] at h
      obtain ⟨⟨first, behind⟩, hfirst, ⟨others, last⟩, hothers, heq⟩ := h
      cases heq
      simp only [readFields?, Option.bind_eq_bind, readField?_extend hfirst extra,
        Option.bind_some, ih hothers]
      rfl

/-- Rows are complete with their trailer: whatever stands behind it, the reader refuses it. -/
theorem readTuples?_append_eq_none {fuel more : Nat} {rows : List (List Field)}
    {extra : List UInt8} (h : readTuples? fuel bytes = some rows) (hextra : extra ≠ []) :
    readTuples? more (bytes ++ extra) = none := by
  induction fuel generalizing more bytes rows with
  | zero => cases h
  | succ fuel ih =>
      cases more with
      | zero => rfl
      | succ more =>
          simp only [readTuples?, Option.bind_eq_bind, Option.bind_eq_some_iff] at h
          obtain ⟨⟨count, behind⟩, hcount, hrest⟩ := h
          simp only [readTuples?, Option.bind_eq_bind, readSigned?_extend hcount extra,
            Option.bind_some]
          split_ifs at hrest with hend hempty hneg
          · have hmore : (behind ++ extra).isEmpty = false := by simp [hextra]
            rw [if_pos hend, hmore]
            rfl
          · obtain ⟨⟨row, last⟩, hrow, hrest⟩ := Option.bind_eq_some_iff.mp hrest
            obtain ⟨others, hothers, -⟩ := Option.bind_eq_some_iff.mp hrest
            rw [if_neg hend, if_neg hneg, readFields?_extend hrow extra]
            simp [ih hothers]

/-- **Nothing may stand behind a complete stream**: it is no proper prefix of another one. -/
theorem readRows?_append_eq_none {stream extra : List UInt8} {rows : List (List Field)}
    (h : readRows? stream = some rows) (hextra : extra ≠ []) :
    readRows? (stream ++ extra) = none := by
  rw [readRows?] at h
  split_ifs at h with hheader
  · have hlength := (List.isPrefixOf_iff_prefix.mp hheader).length_le
    rw [readRows?, List.drop_append_of_le_length hlength, readTuples?_append_eq_none h hextra]
    exact ite_self none

theorem readRows?_eq_none_of_prefix {front stream : List UInt8} {rows : List (List Field)}
    (h : readRows? stream = some rows) (hfront : front <+: stream) (hne : front ≠ stream) :
    readRows? front = none := by
  obtain ⟨extra, rfl⟩ := hfront
  have hextra : extra ≠ [] := by
    rintro rfl
    exact hne (List.append_nil front).symm
  cases hread : readRows? front with
  | none => rfl
  | some others =>
      rw [readRows?_append_eq_none hread hextra] at h
      cases h

end Extending

/-- Whether an item writes a field. -/
def Item.isField : Item → Bool
  | header | trailer | rowStart _ => false
  | _ => true

/-- Operations that write rows when so many fields of the row that has begun are missing. -/
inductive IsRowwise : Nat → List Item → Prop where
  /-- The stream is left, whatever is missing. -/
  | stop (missing : Nat) : IsRowwise missing []
  | header {missing : Nat} {items : List Item} :
    IsRowwise missing items → IsRowwise missing (.header :: items)
  /-- What cannot be written changes nothing. -/
  | failed {missing : Nat} {item : Item} {fault : Fault} {items : List Item} :
    item.addition = .error fault → IsRowwise missing items → IsRowwise missing (item :: items)
  | rowStart {count : Nat} {items : List Item} :
    count < 2 ^ 15 → IsRowwise count items → IsRowwise 0 (.rowStart count :: items)
  | field {missing : Nat} {item : Item} {bytes : List UInt8} {items : List Item} :
    item.isField = true → item.addition = .ok bytes → IsRowwise missing items →
      IsRowwise (missing + 1) (item :: items)

section Rests

variable {missing : Nat} {bytes : List UInt8}

/-- Bytes complete a row of which so many fields are missing; whole rows follow. -/
def IsRest (missing : Nat) (bytes : List UInt8) : Prop :=
  ∃ (row : List Field) (rows : List (List Field)), row.length = missing ∧
    (∀ field ∈ row, IsShort field) ∧ (∀ row ∈ rows, IsFramed row) ∧
      bytes = row.flatMap fieldBytes ++ rows.flatMap rowBytes

theorem isRest_nulls (missing : Nat) :
    IsRest missing ((List.replicate missing none).flatMap fieldBytes) := by
  refine ⟨List.replicate missing none, [], List.length_replicate, fun field hfield => ?_,
    List.forall_mem_nil _, (List.append_nil _).symm⟩
  rw [List.eq_of_mem_replicate hfield]
  exact isShort_none

theorem IsRest.field {first : Field} (h : IsRest missing bytes) (hfirst : IsShort first) :
    IsRest (missing + 1) (fieldBytes first ++ bytes) := by
  obtain ⟨row, rows, rfl, hshort, hframed, rfl⟩ := h
  exact ⟨first :: row, rows, rfl, List.forall_mem_cons.mpr ⟨hfirst, hshort⟩, hframed, by
    rw [List.flatMap_cons, List.append_assoc]⟩

theorem IsRest.rowStart (h : IsRest missing bytes) (hcount : missing < 2 ^ 15) :
    IsRest 0 (signed 2 missing ++ bytes) := by
  obtain ⟨row, rows, rfl, hshort, hframed, rfl⟩ := h
  exact ⟨[], row :: rows, rfl, List.forall_mem_nil _,
    List.forall_mem_cons.mpr ⟨⟨hcount, hshort⟩, hframed⟩, by
      rw [List.flatMap_nil, List.nil_append, List.flatMap_cons, rowBytes, List.append_assoc]⟩

/-- Whole rows make up a complete stream. -/
theorem IsRest.exists_readRows? (h : IsRest 0 bytes) :
    ∃ rows, readRows? (Copy.header ++ (bytes ++ trailer)) = some rows := by
  obtain ⟨row, rows, hlength, -, hframed, rfl⟩ := h
  obtain rfl := List.eq_nil_of_length_eq_zero hlength
  exact ⟨rows, readRows?_streamBytes hframed⟩

end Rests

section Rowwise

variable {missing : Nat} {items : List Item} {item : Item}

theorem exists_field_of_nullable {α : Type} {encode : α → Except Fault (List UInt8)}
    {value : Option α} {bytes : List UInt8} (h : nullable encode value = .ok bytes) :
    ∃ field, IsShort field ∧ bytes = fieldBytes field := by
  cases value with
  | none => exact ⟨none, isShort_none, (Except.ok.inj h).symm⟩
  | some value =>
      obtain ⟨payload, hencode, hlength⟩ := nullable_eq_ok h
      rw [nullable_some hencode hlength] at h
      refine ⟨some payload, fun other hother => ?_, (Except.ok.inj h).symm⟩
      rwa [← Option.some.inj hother]

/-- An item that writes a field adds the bytes of a field. -/
theorem Item.exists_field (hfield : item.isField = true) {bytes : List UInt8}
    (h : item.addition = .ok bytes) : ∃ field, IsShort field ∧ bytes = fieldBytes field := by
  have hencode : item.encode = .ok bytes := by
    cases item <;> first | exact h | cases hfield
  cases item with
  | header | trailer | rowStart => cases hfield
  | null => exact ⟨none, isShort_none, (Except.ok.inj hencode).symm⟩
  | long | text | timestamp | geometry => exact exists_field_of_nullable hencode
  | timestampText form =>
      rw [Item.encode] at hencode
      split at hencode
      · exact exists_field_of_nullable hencode
      · cases hencode
  | geometryText digits =>
      rw [Item.encode] at hencode
      split at hencode
      · cases hencode
      · cases hencode
      · exact exists_field_of_nullable hencode
  | outline value srid =>
      rw [Item.encode] at hencode
      split at hencode
      · cases hencode
      · exact exists_field_of_nullable hencode

/-- Operations may be cut off at any place. -/
theorem IsRowwise.of_append (back : List Item) (h : IsRowwise missing (items ++ back)) :
    IsRowwise missing items := by
  induction items generalizing missing with
  | nil => exact .stop missing
  | cons item items ih =>
      cases h with
      | header hrest => exact .header (ih hrest)
      | failed hitem hrest => exact .failed hitem (ih hrest)
      | rowStart hcount hrest => exact .rowStart hcount (ih hrest)
      | field hfield hitem hrest => exact .field hfield hitem (ih hrest)

/-- **Operations that write rows can be gone on with**: there are bytes that complete the row that
they have begun. -/
theorem IsRowwise.exists_completion (h : IsRowwise missing items) :
    ∃ completion, IsRest missing (items.flatMap Item.added ++ completion) := by
  induction h with
  | stop missing => exact ⟨_, isRest_nulls missing⟩
  | header _ ih => exact ih
  | failed hitem _ ih =>
      obtain ⟨completion, hrest⟩ := ih
      refine ⟨completion, ?_⟩
      rwa [List.flatMap_cons, Item.added_of_error hitem, List.nil_append]
  | @rowStart count items hcount _ ih =>
      obtain ⟨completion, hrest⟩ := ih
      refine ⟨completion, ?_⟩
      rw [List.flatMap_cons, Item.added_eq (addition_rowStart hcount), List.append_assoc]
      exact hrest.rowStart hcount
  | field hfield hitem _ ih =>
      obtain ⟨completion, hrest⟩ := ih
      obtain ⟨field, hshort, rfl⟩ := Item.exists_field hfield hitem
      refine ⟨completion, ?_⟩
      rw [List.flatMap_cons, Item.added_eq hitem, List.append_assoc]
      exact hrest.field hshort

/-- What operations have added lies in front of a complete stream, so it is none. -/
theorem IsRowwise.readRows?_eq_none (h : IsRowwise 0 items) :
    readRows? (Copy.header ++ items.flatMap Item.added) = none := by
  obtain ⟨completion, hrest⟩ := h.exists_completion
  obtain ⟨rows, hcomplete⟩ := hrest.exists_readRows?
  rw [List.append_assoc, ← List.append_assoc Copy.header] at hcomplete
  refine readRows?_eq_none_of_prefix hcomplete (List.prefix_append _ _) fun hsame => ?_
  have hlength := congrArg List.length hsame
  simp only [List.length_append, trailer, length_signed] at hlength
  omega

end Rowwise

section Leaving

variable {items : List Item}

/-- A stream that begins with the header and is left by an error behind its items, whichever of them
failed before. The first component says what each of them added. -/
def abandoned (items : List Item) : List (Except Fault (List UInt8)) × List UInt8 :=
  let (outcomes, writer) := (Writer.empty.append .header header).tryAll items
  (outcomes, writer.stream)

theorem abandoned_eq (items : List Item) :
    abandoned items = (items.map Item.addition, header ++ items.flatMap Item.added) := by
  rw [abandoned, Writer.tryAll_eq rfl]
  rfl

/-- The bytes of the operations that succeed. -/
theorem flatten_filterMap_addition (items : List Item) :
    ((items.map Item.addition).filterMap Except.toOption).flatten = items.flatMap Item.added := by
  induction items with
  | nil => rfl
  | cons item items ih =>
      cases hitem : item.addition with
      | error fault =>
          rw [List.map_cons, hitem, List.filterMap_cons_none rfl, ih, List.flatMap_cons,
            Item.added_of_error hitem, List.nil_append]
      | ok bytes =>
          have hsome : (Except.ok bytes : Except Fault _).toOption = some bytes := rfl
          rw [List.map_cons, hitem, List.filterMap_cons_some hsome, List.flatten_cons, ih,
            List.flatMap_cons, Item.added_eq hitem]

theorem snd_abandoned_of_error {front : List Item} {item : Item} {fault : Fault}
    (h : item.addition = .error fault) :
    (abandoned (front ++ [item])).2 = (abandoned front).2 := by
  simp [abandoned_eq, Item.added_of_error h]

/-- Items of which one fails are written as if they were left by an error behind it. -/
theorem enclosed_eq_abandoned {front : List Item} {item : Item} {fault : Fault}
    (hfront : ∀ item ∈ front, item.addition = .ok item.added)
    (hitem : item.addition = .error fault) (back : List Item) :
    enclosed (front ++ item :: back) = abandoned (front ++ [item]) := by
  rw [enclosed_of_failing hfront hitem back, abandoned_eq]
  simp [hitem, Item.added_of_error hitem]

/-- **A stream that is left by an error is not complete.** Every operation is tried once; those that
fail leave the stream as it is, so it is the header and what the others have added, in their order.
Wherever operations that write rows are left, the reader refuses the stream, whatever the payloads
hold; the first operation that fails may be what leaves them. In general nothing that lies in front
of a complete stream is complete, unless it is the whole of it. -/
theorem readRows?_abandoned {items : List Item} (h : IsRowwise 0 items) :
    ((abandoned items).1 = items.map Item.addition ∧
        (abandoned items).2 =
          header ++ ((abandoned items).1.filterMap Except.toOption).flatten) ∧
      (∀ front item fault, (abandoned (front ++ [item])).1.getLast? = some (.error fault) →
        (abandoned (front ++ [item])).2 = (abandoned front).2) ∧
      readRows? (abandoned items).2 = none ∧
      (∀ fault, completeStream items = .error fault → readRows? (enclosed items).2 = none ∧
        ∃ front item back, items = front ++ item :: back ∧
          enclosed items = abandoned (front ++ [item])) ∧
      ∀ front stream rows, readRows? stream = some rows → front <+: stream → front ≠ stream →
        readRows? front = none := by
  refine ⟨⟨?_, ?_⟩, ?_, ?_, ?_, ?_⟩
  · rw [abandoned_eq]
  · rw [abandoned_eq, flatten_filterMap_addition]
  · intro front item fault hlast
    have hitem : item.addition = .error fault := by simpa [abandoned_eq] using hlast
    exact snd_abandoned_of_error hitem
  · rw [abandoned_eq]
    exact h.readRows?_eq_none
  · intro fault hfails
    obtain ⟨front, item, back, rfl, hfront, hitem⟩ := completeStream_eq_error_iff.mp hfails
    have hsame := enclosed_eq_abandoned hfront hitem back
    have hcut : IsRowwise 0 (front ++ [item]) := by
      refine .of_append back ?_
      rwa [List.append_assoc]
    refine ⟨?_, front, item, back, rfl, hsame⟩
    rw [hsame, abandoned_eq]
    exact hcut.readRows?_eq_none
  · intro front stream rows hread hfront hne
    exact readRows?_eq_none_of_prefix hread hfront hne

/-- A row whose last bytes look like a trailer, with a failure and a header within. -/
def trailingItems : List Item :=
  [.rowStart 2, .long (some (-1)), .long (some 9223372036854775808), .header, .long (some (-1))]

theorem isRowwise_trailingItems : IsRowwise 0 trailingItems := by
  have hfails : (Item.long (some 9223372036854775808)).addition = .error .outOfRange := rfl
  have hcount : 2 < 2 ^ 15 := by decide
  exact .rowStart hcount (.field rfl rfl (.failed hfails (.header (.field rfl rfl (.stop 0)))))

theorem readRows?_abandoned_trailingItems :
    IsRowwise 0 trailingItems ∧ readRows? (abandoned trailingItems).2 = none ∧
      completeStream trailingItems = .error .outOfRange ∧
      readRows? (enclosed trailingItems).2 = none := by
  obtain ⟨-, -, hrefused, hfails, -⟩ := readRows?_abandoned isRowwise_trailingItems
  have hfault : completeStream trailingItems = .error .outOfRange := by decide +kernel
  exact ⟨isRowwise_trailingItems, hrefused, hfault, (hfails _ hfault).1⟩

/-- The last bytes do not say that the trailer is missing. -/
example : trailer <:+ (abandoned trailingItems).2 := by
  decide +kernel

end Leaving

end Copy
end VectorTiles
