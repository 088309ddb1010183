import VectorTiles.Proofs.Sql.Nesting

/-!
# Groups

A group is a text in parentheses that can stand among other texts. The outer parentheses of a
text are found by the depth of its plain characters.

**Data.** Offsets count characters. A part of a text is given by the offsets of its first and of
its last character.

**Results.**

* `outermost`, `groups`: what stands outside of all parentheses, and where the outer ones are.
* `IsMatch`: two parentheses that belong to each other.
* `IsGroup.outermost_append`, `IsGroup.groups_append`: a group at the front of a text.
-/

namespace VectorTiles
namespace Sql

section Outer

/-- The plain characters outside of all parentheses, and the outer parentheses themselves. -/
def outermost : Nat → List Char → List Char
  | _, [] => []
  | depth, c :: cs =>
    if c = '(' then (if depth = 0 then [c] else []) ++ outermost (depth + 1) cs
    else if c = ')' then (if depth ≤ 1 then [c] else []) ++ outermost (depth - 1) cs
    else (if depth = 0 then [c] else []) ++ outermost depth cs

/-- The offsets of the outer parentheses, in pairs. The group that is open began at `start`. -/
def groups : (depth start : Nat) → List (Nat × Char) → List (Nat × Nat)
  | _, _, [] => []
  | depth, start, (i, c) :: ys =>
    if c = '(' then groups (depth + 1) (if depth = 0 then i else start) ys
    else if c = ')' then
      if depth = 1 then (start, i) :: groups 0 0 ys else groups (depth - 1) start ys
    else groups depth start ys

/-- The parentheses at two offsets belong to each other: those between them match among
themselves. -/
def IsMatch (ys : List (Nat × Char)) (i j : Nat) : Prop :=
  ∃ before inner after, ys = before ++ (i, '(') :: inner ++ (j, ')') :: after ∧
    depthAfter 0 (inner.map (·.2)) = some 0

variable {depth behind : Nat}

/-- Nothing inside of parentheses is outermost. -/
theorem outermost_append {xs : List Char} (h : depthAfter depth xs = some behind)
    (rest : List Char) : outermost (depth + 1) (xs ++ rest) = outermost (behind + 1) rest := by
  induction xs generalizing depth with
  | nil =>
      obtain rfl : depth = behind := by simpa [depthAfter] using h
      rfl
  | cons c xs ih =>
      by_cases hopen : c = '('
      · subst hopen
        have hinner : depthAfter (depth + 1) xs = some behind := by simpa [depthAfter] using h
        simpa [outermost] using ih hinner
      by_cases hclose : c = ')'
      · subst hclose
        cases depth with
        | zero => simp [depthAfter] at h
        | succ depth =>
            have hinner : depthAfter depth xs = some behind := by simpa [depthAfter] using h
            simpa [outermost] using ih hinner
      · simpa [outermost, hopen, hclose] using ih (by simpa [depthAfter, hopen, hclose] using h)

/-- A group begins and ends where its own parentheses stand. -/
theorem groups_append {xs : List (Nat × Char)} (h : depthAfter depth (xs.map (·.2)) = some behind)
    (start : Nat) (rest : List (Nat × Char)) :
    groups (depth + 1) start (xs ++ rest) = groups (behind + 1) start rest := by
  induction xs generalizing depth with
  | nil =>
      obtain rfl : depth = behind := by simpa [depthAfter] using h
      rfl
  | cons y xs ih =>
      obtain ⟨i, c⟩ := y
      by_cases hopen : c = '('
      · subst hopen
        have hinner : depthAfter (depth + 1) (xs.map (·.2)) = some behind := by
          simpa [depthAfter] using h
        simpa [groups] using ih hinner
      by_cases hclose : c = ')'
      · subst hclose
        cases depth with
        | zero => simp [depthAfter] at h
        | succ depth =>
            have hinner : depthAfter depth (xs.map (·.2)) = some behind := by
              simpa [depthAfter] using h
            simpa [groups] using ih hinner
      · simpa [groups, hopen, hclose] using ih (by simpa [depthAfter, hopen, hclose] using h)

theorem outermost_group {inner : List Char} (h : depthAfter 0 inner = some 0) (rest : List Char) :
    outermost 0 ('(' :: inner ++ ')' :: rest) = '(' :: ')' :: outermost 0 rest := by
  have hinner := outermost_append h (')' :: rest)
  simp only [outermost] at hinner
  simpa [outermost] using hinner

theorem groups_group {inner : List (Nat × Char)} (h : depthAfter 0 (inner.map (·.2)) = some 0)
    (i j : Nat) (rest : List (Nat × Char)) :
    groups 0 0 ((i, '(') :: inner ++ (j, ')') :: rest) = (i, j) :: groups 0 0 rest := by
  have hinner := groups_append h i ((j, ')') :: rest)
  simpa [groups] using hinner

theorem outermost_append_of_forall_ne {xs : List Char} (h : ∀ c ∈ xs, c ≠ '(' ∧ c ≠ ')')
    (rest : List Char) : outermost 0 (xs ++ rest) = xs ++ outermost 0 rest := by
  induction xs with
  | nil => rfl
  | cons c xs ih =>
      obtain ⟨hopen, hclose⟩ := h c (by simp)
      simp [outermost, hopen, hclose, ih fun e he => h e (List.mem_cons_of_mem _ he)]

theorem groups_append_of_forall_ne {xs : List (Nat × Char)}
    (h : ∀ y ∈ xs, y.2 ≠ '(' ∧ y.2 ≠ ')') (rest : List (Nat × Char)) :
    groups 0 0 (xs ++ rest) = groups 0 0 rest := by
  induction xs with
  | nil => rfl
  | cons y xs ih =>
      obtain ⟨hopen, hclose⟩ := h y (by simp)
      simp [groups, hopen, hclose, ih fun e he => h e (List.mem_cons_of_mem _ he)]

end Outer

section Parts

/-- The part of a text between two offsets, both included. -/
def slice (cs : List Char) (ends : Nat × Nat) : List Char :=
  (cs.drop ends.1).take (ends.2 + 1 - ends.1)

/-- A text ends with what stands at an offset, which is scanned as if it stood alone. -/
structure StandsAt (cs : List Char) (offset : Nat) (text : List Char) : Prop where
  drop_eq : cs.drop offset = text
  plain_eq : ∃ before, plainChars cs = before ++ plainFrom offset text

variable {cs xs ys : List Char} {offset : Nat}

theorem drop_add_of_eq_append (h : cs.drop offset = xs ++ ys) :
    cs.drop (offset + xs.length) = ys := by
  rw [← List.drop_drop, h, List.drop_left]

theorem slice_eq_of_drop {last : Nat} (h : cs.drop offset = xs ++ ys)
    (hlast : last + 1 = offset + xs.length) : slice cs (offset, last) = xs := by
  rw [slice, h, hlast, Nat.add_sub_cancel_left, List.take_left]

theorem StandsAt.self (cs : List Char) : StandsAt cs 0 cs :=
  ⟨rfl, [], rfl⟩

theorem StandsAt.append (h : StandsAt cs offset (xs ++ ys)) (hx : Standalone xs) :
    StandsAt cs (offset + xs.length) ys := by
  obtain ⟨before, hbefore⟩ := h.plain_eq
  refine ⟨drop_add_of_eq_append h.drop_eq, before ++ plainFrom offset xs, ?_⟩
  rw [hbefore, plainFrom_append hx, List.append_assoc]

end Parts

section Group

/-- A text in parentheses that is scanned the same wherever it stands. -/
structure IsGroup (text : List Char) : Prop where
  standalone : Standalone text
  plain_eq : ∀ offset, ∃ inner last, last + 1 = offset + text.length ∧
    plainFrom offset text = (offset, '(') :: inner ++ [(last, ')')] ∧ Leads 0 (inner.map (·.2)) 0

variable {text : List Char}

theorem IsGroup.isNested (h : IsGroup text) : IsNested text := by
  obtain ⟨inner, last, -, hplain, hinner⟩ := h.plain_eq 0
  refine ⟨h.standalone.openRegion, ?_⟩
  rw [← map_snd_plainFrom 0, hplain]
  simpa using hinner.group

/-- A group is outermost with its own two parentheses. -/
theorem IsGroup.outermost_append (h : IsGroup text) (rest : List Char) :
    outermost 0 (plainText text ++ rest) = '(' :: ')' :: outermost 0 rest := by
  obtain ⟨inner, last, -, hplain, hinner⟩ := h.plain_eq 0
  rw [← map_snd_plainFrom 0, hplain]
  simpa using outermost_group hinner.2 rest

/-- A group is the first group of a text that begins with it. -/
theorem IsGroup.groups_append (h : IsGroup text) (offset : Nat) (rest : List (Nat × Char)) :
    ∃ last, last + 1 = offset + text.length ∧
      groups 0 0 (plainFrom offset text ++ rest) = (offset, last) :: groups 0 0 rest := by
  obtain ⟨inner, last, hlast, hplain, hinner⟩ := h.plain_eq offset
  refine ⟨last, hlast, ?_⟩
  rw [hplain]
  simpa using groups_group hinner.2 offset last rest

end Group

section Flat

/-- A text of plain characters without parentheses and semicolons. -/
structure IsFlat (text : List Char) : Prop where
  openRegion_eq : (Scan.ofText text).openRegion = none
  plain_eq : plainText text = text
  uncounted : ∀ c ∈ text, c ≠ ';' ∧ c ≠ '(' ∧ c ≠ ')'

variable {text : List Char}

theorem IsFlat.isNested (h : IsFlat text) : IsNested text := by
  have hend : Leads 0 [] 0 := by decide
  refine ⟨h.openRegion_eq, ?_⟩
  rw [h.plain_eq, ← List.append_nil text]
  exact (leads_append_left_iff h.uncounted).mpr hend

theorem IsFlat.outermost_append (h : IsFlat text) (rest : List Char) :
    outermost 0 (plainText text ++ rest) = text ++ outermost 0 rest := by
  rw [h.plain_eq]
  exact outermost_append_of_forall_ne (fun c hc => (h.uncounted c hc).2) rest

theorem IsFlat.groups_append (h : IsFlat text) (offset : Nat) (rest : List (Nat × Char)) :
    groups 0 0 (plainFrom offset text ++ rest) = groups 0 0 rest := by
  refine groups_append_of_forall_ne (fun y hy => ?_) rest
  have hmem : y.2 ∈ (plainFrom offset text).map (·.2) := List.mem_map_of_mem hy
  rw [map_snd_plainFrom, h.plain_eq] at hmem
  exact (h.uncounted _ hmem).2

end Flat

section Joining

/-- Groups in a row, each with a text in front of it, and a text behind the last. -/
def interleaved (back : List Char) : List (List Char × List Char) → List Char
  | [] => back
  | (front, text) :: segments => front ++ (text ++ interleaved back segments)

/-- A group with a flat text in front of it. -/
structure IsSegment (segment : List Char × List Char) : Prop where
  standalone : Standalone segment.1
  flat : IsFlat segment.1
  group : IsGroup segment.2

/-- A group of a text stands where its parentheses do. -/
def Occupies (cs text : List Char) (group : Nat × Nat) : Prop :=
  group.2 + 1 = group.1 + text.length ∧ ∃ rest, StandsAt cs group.1 (text ++ rest)

variable {cs back : List Char} {segments : List (List Char × List Char)} {offset : Nat}
variable (hback : IsFlat back) (h : ∀ segment ∈ segments, IsSegment segment)
include hback h

theorem isNested_interleaved : IsNested (interleaved back segments) := by
  induction segments with
  | nil => exact hback.isNested
  | cons segment segments ih =>
      obtain ⟨hfirst, hrest⟩ := List.forall_mem_cons.mp h
      exact hfirst.flat.isNested.append hfirst.standalone
        (hfirst.group.isNested.append hfirst.group.standalone (ih hrest))

/-- Of each group its two parentheses are outermost. -/
theorem outermost_interleaved : outermost 0 (plainText (interleaved back segments)) =
    interleaved back (segments.map fun segment => (segment.1, ['(', ')'])) := by
  induction segments with
  | nil =>
      have hflat := hback.outermost_append []
      simpa [outermost, interleaved] using hflat
  | cons segment segments ih =>
      obtain ⟨hfirst, hrest⟩ := List.forall_mem_cons.mp h
      rw [interleaved, plainText_append hfirst.standalone, plainText_append hfirst.group.standalone,
        hfirst.flat.outermost_append, hfirst.group.outermost_append, ih hrest]
      rfl

/-- The groups of the text are the groups in the row. -/
theorem forall₂_occupies_interleaved (hstands : StandsAt cs offset (interleaved back segments)) :
    List.Forall₂ (Occupies cs) (segments.map (·.2))
      (groups 0 0 (plainFrom offset (interleaved back segments))) := by
  -- The row is at the end of a fixed text, so that the offsets of its groups are those of the text.
  induction segments generalizing offset with
  | nil =>
      have hflat := hback.groups_append offset []
      rw [List.append_nil] at hflat
      rw [interleaved, hflat]
      exact List.Forall₂.nil
  | cons segment segments ih =>
      obtain ⟨hfirst, hrest⟩ := List.forall_mem_cons.mp h
      obtain ⟨front, text⟩ := segment
      have htext : StandsAt cs (offset + front.length) (text ++ interleaved back segments) :=
        hstands.append hfirst.standalone
      have hnext := ih hrest (htext.append hfirst.group.standalone)
      rw [interleaved, plainFrom_append hfirst.standalone, hfirst.flat.groups_append,
        plainFrom_append hfirst.group.standalone]
      obtain ⟨last, hlast, hgroups⟩ := hfirst.group.groups_append (offset + front.length)
        (plainFrom (offset + front.length + text.length) (interleaved back segments))
      rw [hgroups]
      exact List.Forall₂.cons ⟨hlast, _, htext⟩ hnext

end Joining

end Sql
end VectorTiles
