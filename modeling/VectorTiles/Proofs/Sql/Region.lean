import VectorTiles.Sql.Lexeme
import VectorTiles.Sql.Literal
import Mathlib.Data.List.Basic
import Mathlib.Data.List.Infix
import Mathlib.Data.List.TakeWhile
import Mathlib.Tactic.Common

/-!
# Regions of a query in a longer text

The readers of regions look ahead for the end of a region. This module says what becomes of their
answers when the text goes on, and when a character is written twice everywhere.

**Results.**

* `quotedBody?_append`, `escapeBody?_append`, `before?_append`: a body that was found stays the same
  when the text goes on, unless a closing quote at the very end would be written twice.
* `quotedBody?_append_eq_none` and its siblings: a region that is open at the end of the text stays
  open as long as its closing mark does not come.
* `quotedBody?_doubled` and its siblings: the body of a text with a character written twice, where
  the character has no meaning for the region.
* `tag?_append`, `tag?_doubled`: the same for the tag of a dollar-quoted body.
-/

namespace VectorTiles
namespace Sql

section Doubled

variable {mark c : Char} {cs ds : List Char}

@[simp] theorem doubled_nil (mark : Char) : doubled mark [] = [] := by
  simp [doubled]

@[simp] theorem doubled_cons_self (mark : Char) (cs : List Char) :
    doubled mark (mark :: cs) = mark :: mark :: doubled mark cs := by
  simp [doubled]

theorem doubled_cons_of_ne (h : c ≠ mark) : doubled mark (c :: cs) = c :: doubled mark cs := by
  simp [doubled, h]

@[simp] theorem doubled_append (mark : Char) (cs ds : List Char) :
    doubled mark (cs ++ ds) = doubled mark cs ++ doubled mark ds := by
  simp [doubled]

@[simp] theorem mem_doubled : c ∈ doubled mark cs ↔ c ∈ cs := by
  induction cs with
  | nil => simp
  | cons d cs ih =>
      by_cases hd : d = mark
      · subst hd
        simp [ih]
      · simp [doubled_cons_of_ne hd, ih]

theorem doubled_of_notMem (h : mark ∉ cs) : doubled mark cs = cs := by
  induction cs with
  | nil => rfl
  | cons d cs ih =>
      have hd : d ≠ mark := fun he => h (by simp [he])
      rw [doubled_cons_of_ne hd, ih fun hm => h (List.mem_cons_of_mem _ hm)]

theorem head?_doubled (mark : Char) (cs : List Char) : (doubled mark cs).head? = cs.head? := by
  cases cs with
  | nil => rfl
  | cons d cs =>
      by_cases hd : d = mark
      · subst hd
        simp
      · simp [doubled_cons_of_ne hd]

end Doubled

section Quoted

variable {quote c : Char} {xs ys body : List Char}

theorem quotedBody?_cons_of_ne (h : c ≠ quote) (cs : List Char) :
    quotedBody? quote (c :: cs) = (quotedBody? quote cs).map (c :: ·) := by
  cases cs with
  | nil => simp [quotedBody?, h]
  | cons d cs => simp [quotedBody?, h]

theorem quotedBody?_cons_cons (quote : Char) (cs : List Char) :
    quotedBody? quote (quote :: quote :: cs) =
      (quotedBody? quote cs).map (fun body => quote :: quote :: body) := by
  simp [quotedBody?]

theorem quotedBody?_closing (h : xs.head? ≠ some quote) :
    quotedBody? quote (quote :: xs) = some [] := by
  cases xs with
  | nil => simp [quotedBody?]
  | cons d xs =>
      have hd : d ≠ quote := fun he => h (by simp [he])
      simp [quotedBody?, hd]

theorem quotedBody?_eq_none_of_notMem (h : quote ∉ xs) : quotedBody? quote xs = none := by
  induction xs with
  | nil => rfl
  | cons c xs ih =>
      have hc : c ≠ quote := fun he => h (by simp [he])
      rw [quotedBody?_cons_of_ne hc, ih fun hm => h (List.mem_cons_of_mem _ hm)]
      rfl

/-- The body in front of the closing quote, and what follows the quote. -/
theorem quotedBody?_eq_some (h : quotedBody? quote xs = some body) :
    ∃ rest, xs = body ++ quote :: rest := by
  fun_induction quotedBody? quote xs generalizing body with
  | case1 => simp at h
  | case2 => simp_all
  | case3 => simp at h
  | case4 rest ih =>
      obtain ⟨inner, hinner, rfl⟩ := Option.map_eq_some_iff.mp h
      obtain ⟨tail, rfl⟩ := ih hinner
      exact ⟨tail, rfl⟩
  | case5 d rest hd => exact ⟨d :: rest, by simp_all⟩
  | case6 c d rest hc ih =>
      obtain ⟨inner, hinner, rfl⟩ := Option.map_eq_some_iff.mp h
      obtain ⟨tail, htail⟩ := ih hinner
      exact ⟨tail, by simp [htail]⟩

theorem quotedBody?_append (h : quotedBody? quote xs = some body) (hy : ys.head? ≠ some quote) :
    quotedBody? quote (xs ++ ys) = some body := by
  fun_induction quotedBody? quote xs generalizing body with
  | case1 => simp at h
  | case2 => rw [List.singleton_append, quotedBody?_closing hy, ← h]
  | case3 => simp at h
  | case4 rest ih =>
      obtain ⟨inner, hinner, rfl⟩ := Option.map_eq_some_iff.mp h
      rw [List.cons_append, List.cons_append, quotedBody?_cons_cons, ih hinner]
      rfl
  | case5 d rest hd =>
      rw [List.cons_append, quotedBody?_closing (by simp [hd]), ← h]
  | case6 c d rest hc ih =>
      obtain ⟨inner, hinner, rfl⟩ := Option.map_eq_some_iff.mp h
      rw [List.cons_append, quotedBody?_cons_of_ne hc, ih hinner]
      rfl

theorem quotedBody?_append_eq_none (h : quotedBody? quote xs = none) (hy : quote ∉ ys) :
    quotedBody? quote (xs ++ ys) = none := by
  fun_induction quotedBody? quote xs with
  | case1 => exact quotedBody?_eq_none_of_notMem hy
  | case2 => simp at h
  | case3 c hc =>
      rw [List.singleton_append, quotedBody?_cons_of_ne hc, quotedBody?_eq_none_of_notMem hy]
      rfl
  | case4 rest ih =>
      rw [List.cons_append, List.cons_append, quotedBody?_cons_cons,
        ih (Option.map_eq_none_iff.mp h)]
      rfl
  | case5 => simp at h
  | case6 c d rest hc ih =>
      rw [List.cons_append, quotedBody?_cons_of_ne hc, ih (Option.map_eq_none_iff.mp h)]
      rfl

theorem quotedBody?_doubled {mark : Char} (hm : mark ≠ quote) (xs : List Char) :
    quotedBody? quote (doubled mark xs) = (quotedBody? quote xs).map (doubled mark) := by
  have hq : quote ≠ mark := hm.symm
  fun_induction quotedBody? quote xs with
  | case1 => rfl
  | case2 => simp [doubled_cons_of_ne hq, quotedBody?]
  | case3 c hc =>
      rw [quotedBody?_eq_none_of_notMem (by simp [Ne.symm hc])]
      rfl
  | case4 rest ih =>
      rw [doubled_cons_of_ne hq, doubled_cons_of_ne hq, quotedBody?_cons_cons, ih, Option.map_map,
        Option.map_map]
      congr 1
      funext body
      simp [doubled_cons_of_ne hq]
  | case5 d rest hd =>
      rw [doubled_cons_of_ne hq, quotedBody?_closing (by rw [head?_doubled]; simpa using hd)]
      rfl
  | case6 c d rest hc ih =>
      by_cases hcm : c = mark
      · subst hcm
        rw [doubled_cons_self, quotedBody?_cons_of_ne hc, quotedBody?_cons_of_ne hc, ih,
          Option.map_map, Option.map_map, Option.map_map]
        congr 1
        funext body
        simp
      · rw [doubled_cons_of_ne hcm, quotedBody?_cons_of_ne hc, ih, Option.map_map, Option.map_map]
        congr 1
        funext body
        simp [doubled_cons_of_ne hcm]

end Quoted

section Escape

variable {c : Char} {xs ys body : List Char}

theorem escapeBody?_cons_of_ne (hb : c ≠ '\\') (hq : c ≠ '\'') (cs : List Char) :
    escapeBody? (c :: cs) = (escapeBody? cs).map (c :: ·) := by
  cases cs with
  | nil => simp [escapeBody?, hq]
  | cons d cs => simp [escapeBody?, hb, hq]

theorem escapeBody?_backslash (d : Char) (cs : List Char) :
    escapeBody? ('\\' :: d :: cs) = (escapeBody? cs).map (fun body => '\\' :: d :: body) := by
  simp [escapeBody?]

theorem escapeBody?_cons_cons (cs : List Char) :
    escapeBody? ('\'' :: '\'' :: cs) = (escapeBody? cs).map (fun body => '\'' :: '\'' :: body) := by
  simp [escapeBody?]

theorem escapeBody?_closing (h : xs.head? ≠ some '\'') : escapeBody? ('\'' :: xs) = some [] := by
  cases xs with
  | nil => simp [escapeBody?]
  | cons d xs =>
      have hd : d ≠ '\'' := fun he => h (by simp [he])
      simp [escapeBody?, hd]

/-- The body in front of the closing quote, and what follows the quote. -/
theorem escapeBody?_eq_some (h : escapeBody? xs = some body) :
    ∃ rest, xs = body ++ '\'' :: rest := by
  fun_induction escapeBody? xs generalizing body with
  | case1 => simp at h
  | case2 => simp_all
  | case3 => simp at h
  | case4 d rest ih =>
      obtain ⟨inner, hinner, rfl⟩ := Option.map_eq_some_iff.mp h
      obtain ⟨tail, rfl⟩ := ih hinner
      exact ⟨tail, rfl⟩
  | case5 rest _ ih =>
      obtain ⟨inner, hinner, rfl⟩ := Option.map_eq_some_iff.mp h
      obtain ⟨tail, rfl⟩ := ih hinner
      exact ⟨tail, rfl⟩
  | case6 d rest => exact ⟨d :: rest, by simp_all⟩
  | case7 c d rest hb hq ih =>
      obtain ⟨inner, hinner, rfl⟩ := Option.map_eq_some_iff.mp h
      obtain ⟨tail, htail⟩ := ih hinner
      exact ⟨tail, by simp [htail]⟩

theorem escapeBody?_eq_none_of_notMem (h : '\'' ∉ xs) : escapeBody? xs = none := by
  cases hbody : escapeBody? xs with
  | none => rfl
  | some body =>
      obtain ⟨rest, rfl⟩ := escapeBody?_eq_some hbody
      exact absurd (by simp) h

theorem escapeBody?_append (h : escapeBody? xs = some body) (hy : ys.head? ≠ some '\'') :
    escapeBody? (xs ++ ys) = some body := by
  fun_induction escapeBody? xs generalizing body with
  | case1 => simp at h
  | case2 => rw [List.singleton_append, escapeBody?_closing hy, ← h]
  | case3 => simp at h
  | case4 d rest ih =>
      obtain ⟨inner, hinner, rfl⟩ := Option.map_eq_some_iff.mp h
      rw [List.cons_append, List.cons_append, escapeBody?_backslash, ih hinner]
      rfl
  | case5 rest _ ih =>
      obtain ⟨inner, hinner, rfl⟩ := Option.map_eq_some_iff.mp h
      rw [List.cons_append, List.cons_append, escapeBody?_cons_cons, ih hinner]
      rfl
  | case6 d rest hd =>
      rw [List.cons_append, escapeBody?_closing (by simp [hd]), ← h]
  | case7 c d rest hb hq ih =>
      obtain ⟨inner, hinner, rfl⟩ := Option.map_eq_some_iff.mp h
      rw [List.cons_append, escapeBody?_cons_of_ne hb hq, ih hinner]
      rfl

theorem escapeBody?_append_eq_none (h : escapeBody? xs = none) (hy : '\'' ∉ ys) :
    escapeBody? (xs ++ ys) = none := by
  fun_induction escapeBody? xs with
  | case1 => exact escapeBody?_eq_none_of_notMem hy
  | case2 => simp at h
  | case3 c hc =>
      exact escapeBody?_eq_none_of_notMem (by simp [Ne.symm hc, hy])
  | case4 d rest ih =>
      rw [List.cons_append, List.cons_append, escapeBody?_backslash,
        ih (Option.map_eq_none_iff.mp h)]
      rfl
  | case5 rest _ ih =>
      rw [List.cons_append, List.cons_append, escapeBody?_cons_cons,
        ih (Option.map_eq_none_iff.mp h)]
      rfl
  | case6 => simp at h
  | case7 c d rest hb hq ih =>
      rw [List.cons_append, escapeBody?_cons_of_ne hb hq, ih (Option.map_eq_none_iff.mp h)]
      rfl

theorem escapeBody?_doubled {mark : Char} (hb : mark ≠ '\\') (hq : mark ≠ '\'') (xs : List Char) :
    escapeBody? (doubled mark xs) = (escapeBody? xs).map (doubled mark) := by
  fun_induction escapeBody? xs with
  | case1 => rfl
  | case2 => simp [doubled_cons_of_ne hq.symm, escapeBody?]
  | case3 c hc =>
      rw [escapeBody?_eq_none_of_notMem (by simp [Ne.symm hc])]
      rfl
  | case4 d rest ih =>
      -- the backslash takes the first of two marks, the second one stands for itself
      by_cases hd : d = mark
      · subst hd
        rw [doubled_cons_of_ne hb.symm, doubled_cons_self, escapeBody?_backslash,
          escapeBody?_cons_of_ne hb hq, ih, Option.map_map, Option.map_map, Option.map_map]
        congr 1
        funext body
        simp [doubled_cons_of_ne hb.symm]
      · rw [doubled_cons_of_ne hb.symm, doubled_cons_of_ne hd, escapeBody?_backslash, ih,
          Option.map_map, Option.map_map]
        congr 1
        funext body
        simp [doubled_cons_of_ne hb.symm, doubled_cons_of_ne hd]
  | case5 rest _ ih =>
      rw [doubled_cons_of_ne hq.symm, doubled_cons_of_ne hq.symm, escapeBody?_cons_cons, ih,
        Option.map_map, Option.map_map]
      congr 1
      funext body
      simp [doubled_cons_of_ne hq.symm]
  | case6 d rest hd =>
      rw [doubled_cons_of_ne hq.symm, escapeBody?_closing (by rw [head?_doubled]; simpa using hd)]
      rfl
  | case7 c d rest hcb hcq ih =>
      by_cases hcm : c = mark
      · subst hcm
        rw [doubled_cons_self, escapeBody?_cons_of_ne hcb hcq, escapeBody?_cons_of_ne hcb hcq, ih,
          Option.map_map, Option.map_map, Option.map_map]
        congr 1
        funext body
        simp
      · rw [doubled_cons_of_ne hcm, escapeBody?_cons_of_ne hcb hcq, ih, Option.map_map,
          Option.map_map]
        congr 1
        funext body
        simp [doubled_cons_of_ne hcm]

end Escape

section Before

variable {mark xs ys body : List Char}

theorem before?_eq_some (h : before? mark xs = some body) : ∃ rest, xs = body ++ mark ++ rest := by
  fun_induction before? mark xs generalizing body with
  | case1 hm => simp_all
  | case2 => simp at h
  | case3 c cs hp =>
      obtain ⟨rest, hrest⟩ := List.isPrefixOf_iff_prefix.mp hp
      exact ⟨rest, by simp_all⟩
  | case4 c cs hp ih =>
      obtain ⟨inner, hinner, rfl⟩ := Option.map_eq_some_iff.mp h
      obtain ⟨rest, rfl⟩ := ih hinner
      exact ⟨rest, rfl⟩

theorem before?_append (h : before? mark xs = some body) (ys : List Char) :
    before? mark (xs ++ ys) = some body := by
  fun_induction before? mark xs generalizing body with
  | case1 hm =>
      obtain rfl : mark = [] := by simpa using hm
      obtain rfl : body = [] := by simpa using h.symm
      cases ys <;> simp [before?]
  | case2 => simp at h
  | case3 c cs hp =>
      have hp' : mark.isPrefixOf (c :: (cs ++ ys)) := by
        rw [List.isPrefixOf_iff_prefix] at hp ⊢
        exact hp.trans (List.prefix_append (c :: cs) ys)
      simpa [before?, hp'] using h
  | case4 c cs hp ih =>
      obtain ⟨inner, hinner, rfl⟩ := Option.map_eq_some_iff.mp h
      -- the mark lies within `cs`, so a prefix as long as the mark ends there as well
      have hp' : ¬ mark.isPrefixOf (c :: (cs ++ ys)) = true := by
        obtain ⟨rest, rfl⟩ := before?_eq_some hinner
        rw [List.isPrefixOf_iff_prefix] at hp ⊢
        intro hlong
        exact hp (List.prefix_of_prefix_length_le hlong
          (List.prefix_append (c :: (inner ++ mark ++ rest)) ys) (by simp; omega))
      simp [before?, hp', ih hinner]

theorem before?_eq_none_iff (hm : mark ≠ []) : before? mark xs = none ↔ ¬ mark <:+: xs := by
  induction xs with
  | nil => simp [before?, hm]
  | cons c xs ih =>
      rw [before?, List.infix_cons_iff]
      by_cases hp : mark.isPrefixOf (c :: xs) = true
      · simp [hp, List.isPrefixOf_iff_prefix.mp hp]
      · have hp' : ¬ mark <+: c :: xs := fun h => hp (List.isPrefixOf_iff_prefix.mpr h)
        simp [hp, hp', ih]

theorem before?_append_eq_none {last : Char} (h : before? mark xs = none)
    (hl : mark.getLast? = some last) (hy : last ∉ ys) : before? mark (xs ++ ys) = none := by
  have hm : mark ≠ [] := by
    rintro rfl
    simp at hl
  rw [before?_eq_none_iff hm] at h ⊢
  rintro ⟨front, back, hall⟩
  rcases List.append_eq_append_iff.mp hall with ⟨inner, hxs, hback⟩ | ⟨inner, hfront, hys⟩
  · exact h ⟨front, inner, hxs.symm⟩
  · -- the mark reaches beyond `xs`, so its last character is one of `ys`
    cases hinner : inner.getLast? with
    | none =>
        obtain rfl : inner = [] := List.getLast?_eq_none_iff.mp hinner
        exact h ⟨front, [], by simpa using hfront⟩
    | some e =>
        have he : (front ++ mark).getLast? = some e := by rw [hfront]; simp [hinner]
        have : e = last := by simpa [List.getLast?_append, hl] using he.symm
        subst this
        exact hy (by rw [hys]; exact List.mem_append_left _ (List.mem_of_getLast? hinner))

theorem prefix_doubled_iff {c : Char} (hc : c ∉ mark) :
    mark <+: doubled c xs ↔ mark <+: xs := by
  induction mark generalizing xs with
  | nil => simp
  | cons m mark ih =>
      have hm : m ≠ c := fun he => hc (by simp [he])
      cases xs with
      | nil => simp
      | cons x xs =>
          by_cases hx : x = c
          · subst hx
            simp [List.cons_prefix_cons, hm]
          · rw [doubled_cons_of_ne hx, List.cons_prefix_cons, List.cons_prefix_cons,
              ih fun h => hc (List.mem_cons_of_mem _ h)]

theorem before?_doubled {c : Char} (hm : mark ≠ []) (hc : c ∉ mark) (xs : List Char) :
    before? mark (doubled c xs) = (before? mark xs).map (doubled c) := by
  have hnone : ∀ ys, ¬ mark <+: c :: ys := by
    intro ys hp
    obtain ⟨m, rest, rfl⟩ := List.exists_cons_of_ne_nil hm
    exact hc (by simp [(List.cons_prefix_cons.mp hp).1])
  induction xs with
  | nil => simp [before?, hm]
  | cons x xs ih =>
      by_cases hx : x = c
      · subst hx
        simp only [doubled_cons_self, before?, List.isPrefixOf_iff_prefix, hnone, if_false, ih,
          Option.map_map]
        congr 1
        funext body
        simp
      · have hiff : mark <+: x :: doubled c xs ↔ mark <+: x :: xs := by
          rw [← doubled_cons_of_ne hx, prefix_doubled_iff hc]
        simp only [doubled_cons_of_ne hx, before?, List.isPrefixOf_iff_prefix, hiff, ih]
        split_ifs
        · simp
        · rw [Option.map_map, Option.map_map]
          congr 1
          funext body
          simp [doubled_cons_of_ne hx]

end Before

section Tag

variable {d : Char} {xs : List Char}

theorem drop_length_takeWhile (p : Char → Bool) (xs : List Char) :
    xs.drop (xs.takeWhile p).length = xs.dropWhile p := by
  induction xs with
  | nil => rfl
  | cons x xs ih =>
      by_cases hx : p x = true
      · simp [hx, ih]
      · simp [hx]

/-- The tag is the longest run of tag characters, and a dollar sign has to stand behind it. -/
theorem tag?_eq (xs : List Char) :
    tag? xs =
      if (xs.dropWhile isTagChar).head? = some '$' ∧ (xs.takeWhile isTagChar).head?.all isTagStart
      then some (xs.takeWhile isTagChar) else none := by
  simp only [tag?, drop_length_takeWhile]

theorem tag?_eq_some {tag : List Char} (h : tag? xs = some tag) :
    (∃ rest, xs = tag ++ '$' :: rest) ∧ ∀ c ∈ tag, isTagChar c = true := by
  rw [tag?_eq] at h
  split_ifs at h with hd
  obtain rfl : xs.takeWhile isTagChar = tag := by simpa using h
  refine ⟨?_, fun c hc => List.mem_takeWhile_imp hc⟩
  obtain ⟨rest, hrest⟩ := List.head?_eq_some_iff.mp hd.1
  exact ⟨rest, by rw [← hrest, List.takeWhile_append_dropWhile]⟩

theorem takeWhile_append_cons {p : Char → Bool} (hd : p d = false) (xs ys : List Char) :
    (xs ++ d :: ys).takeWhile p = xs.takeWhile p := by
  induction xs with
  | nil => simp [hd]
  | cons x xs ih => rw [List.cons_append, List.takeWhile_cons, List.takeWhile_cons, ih]

theorem head?_dropWhile_append_cons {p : Char → Bool} {e : Char} (hp : p d = false) (hd : d ≠ e)
    (xs ys : List Char) :
    ((xs ++ d :: ys).dropWhile p).head? = some e ↔ (xs.dropWhile p).head? = some e := by
  induction xs with
  | nil => simp [hp, hd]
  | cons x xs ih =>
      rw [List.cons_append, List.dropWhile_cons, List.dropWhile_cons]
      split_ifs
      · exact ih
      · simp

/-- A character that neither belongs to a tag nor ends one keeps what follows apart. -/
theorem tag?_append (ht : isTagChar d = false) (hd : d ≠ '$') (xs ys : List Char) :
    tag? (xs ++ d :: ys) = tag? xs := by
  rw [tag?_eq, tag?_eq, takeWhile_append_cons ht]
  simp only [head?_dropWhile_append_cons ht hd]

theorem tag?_doubled {mark : Char} (ht : isTagChar mark = false) (hm : mark ≠ '$')
    (xs : List Char) : tag? (doubled mark xs) = tag? xs := by
  have htake : (doubled mark xs).takeWhile isTagChar = xs.takeWhile isTagChar := by
    induction xs with
    | nil => rfl
    | cons x xs ih =>
        by_cases hx : x = mark
        · subst hx
          simp [ht]
        · rw [doubled_cons_of_ne hx, List.takeWhile_cons, List.takeWhile_cons, ih]
  have hdrop : ((doubled mark xs).dropWhile isTagChar).head? = (xs.dropWhile isTagChar).head? := by
    clear htake
    induction xs with
    | nil => rfl
    | cons x xs ih =>
        by_cases hx : x = mark
        · subst hx
          simp [ht]
        · rw [doubled_cons_of_ne hx, List.dropWhile_cons, List.dropWhile_cons]
          split_ifs
          · exact ih
          · simp
  rw [tag?_eq, tag?_eq, htake, hdrop]

end Tag

end Sql
end VectorTiles
