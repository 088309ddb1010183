import VectorTiles.Proofs.Sql.Seam
import VectorTiles.Sql.Source

/-!
# Nesting of parentheses

The plain characters of a text are those outside its regions. Only their parentheses count.

**Data.** Plain characters are listed with their offsets in the text. A depth is the number of open
parentheses; a closing one without partner has no depth behind it.

**Results.**

* `plainChars`: the plain characters of a text with their offsets.
* `plainFrom_append`, `plainFrom_append_inert`: the plain characters of texts in a row.
* `Leads.append`: depths of texts in a row.
* `checkNesting_eq_ok_iff`: what the check of a source query accepts.
-/

namespace VectorTiles
namespace Sql

section Plain

/-- The character of a plain lexeme. -/
def Lexeme.plain? : Lexeme → Option Char
  | plain c => some c
  | _ => none

/-- The plain characters among lexemes. -/
def plainWord (lexemes : List Lexeme) : List Char :=
  lexemes.filterMap Lexeme.plain?

/-- The plain characters of a text. -/
def plainText (cs : List Char) : List Char :=
  plainWord (Scan.ofText cs).lexemes

/-- The plain characters among lexemes that begin at an offset, each with its own offset. -/
def placed (offset : Nat) : List Lexeme → List (Nat × Char)
  | [] => []
  | lexeme :: rest =>
    match lexeme.plain? with
    | some c => (offset, c) :: placed (offset + lexeme.length) rest
    | none => placed (offset + lexeme.length) rest

/-- The plain characters of a text that stands at an offset. -/
def plainFrom (offset : Nat) (cs : List Char) : List (Nat × Char) :=
  placed offset (Scan.ofText cs).lexemes

/-- The plain characters of a text with their offsets. -/
def plainChars (cs : List Char) : List (Nat × Char) :=
  plainFrom 0 cs

variable {d : Char} {xs ys : List Char}

theorem plainWord_cons (lexeme : Lexeme) (rest : List Lexeme) :
    plainWord (lexeme :: rest) = lexeme.plain?.toList ++ plainWord rest := by
  rw [plainWord, List.filterMap_cons]
  cases lexeme.plain? <;> rfl

theorem plainWord_append (first second : List Lexeme) :
    plainWord (first ++ second) = plainWord first ++ plainWord second :=
  List.filterMap_append

theorem map_snd_placed (offset : Nat) (lexemes : List Lexeme) :
    (placed offset lexemes).map (·.2) = plainWord lexemes := by
  induction lexemes generalizing offset with
  | nil => rfl
  | cons lexeme rest ih =>
      rw [placed, plainWord_cons]
      cases lexeme.plain? with
      | none => exact ih _
      | some c => exact congrArg (c :: ·) (ih _)

theorem placed_append (offset : Nat) (first second : List Lexeme) :
    placed offset (first ++ second) =
      placed offset first ++ placed (offset + (first.flatMap Lexeme.text).length) second := by
  induction first generalizing offset with
  | nil => simp [placed]
  | cons lexeme rest ih =>
      have hoffset : offset + ((lexeme :: rest).flatMap Lexeme.text).length =
          offset + lexeme.length + (rest.flatMap Lexeme.text).length := by
        simp [Lexeme.length, Nat.add_assoc]
      rw [hoffset, List.cons_append, placed, placed, ih]
      cases lexeme.plain? <;> rfl

/-- The lexemes of a text that leaves no region open are the text. -/
theorem Scan.flatMap_text (context : Context) (cs : List Char)
    (h : (Scan.inContext context cs).openRegion = none) :
    (Scan.inContext context cs).lexemes.flatMap Lexeme.text = cs := by
  induction context, cs using Scan.inContext.induct with
  | case1 context =>
      rw [Scan.inContext_nil]
      rfl
  | case2 context c rest region hread => simp [Scan.inContext_cons_error hread] at h
  | case3 context c rest lexeme hread ih =>
      rw [Scan.inContext_cons hread] at h ⊢
      obtain ⟨tail, htail⟩ := text_prefix_of_readLexeme hread
      have hdrop : (c :: rest).drop lexeme.length = tail := by
        rw [← htail, Lexeme.length, List.drop_left]
      rw [List.flatMap_cons, ih h, hdrop, htail]

theorem plainFrom_append (hx : Standalone xs) (offset : Nat) (ys : List Char) :
    plainFrom offset (xs ++ ys) = plainFrom offset xs ++ plainFrom (offset + xs.length) ys := by
  rw [plainFrom, hx, Scan.append, placed_append,
    show (Scan.ofText xs).lexemes.flatMap Lexeme.text = xs from
      Scan.flatMap_text .fresh xs hx.openRegion]
  rfl

theorem plainFrom_nil (offset : Nat) : plainFrom offset [] = [] := by
  rw [plainFrom, Scan.ofText_nil]
  rfl

/-- An inert character behind a complete text is plain, and what follows it stands alone. -/
theorem plainFrom_append_inert (hx : (Scan.ofText xs).IsComplete) (hd : isInert d = true)
    (offset : Nat) (ys : List Char) :
    plainFrom offset (xs ++ d :: ys) =
      plainFrom offset xs ++ (offset + xs.length, d) :: plainFrom (offset + xs.length + 1) ys := by
  have hscan : Scan.ofText (xs ++ d :: ys) =
      ((Scan.ofText xs).append ⟨[.plain d], none⟩).append (Scan.ofText ys) :=
    Scan.inContext_append_inert hd ys .fresh xs hx
  have htext : (Scan.ofText xs).lexemes.flatMap Lexeme.text = xs :=
    Scan.flatMap_text .fresh xs hx.1
  have hplain : placed (offset + xs.length) [.plain d] = [(offset + xs.length, d)] := rfl
  rw [plainFrom, hscan, Scan.append, Scan.append, placed_append, placed_append,
    List.flatMap_append, htext, hplain, List.append_assoc, List.length_append, ← Nat.add_assoc]
  rfl

theorem plainFrom_cons (hd : isInert d = true) (offset : Nat) (ys : List Char) :
    plainFrom offset (d :: ys) = (offset, d) :: plainFrom (offset + 1) ys := by
  have hnil : (Scan.ofText []).IsComplete := by simp [Scan.ofText_nil, Scan.IsComplete]
  have hcons := plainFrom_append_inert hnil hd offset ys
  rw [plainFrom_nil] at hcons
  exact hcons

theorem map_snd_plainFrom (offset : Nat) (cs : List Char) :
    (plainFrom offset cs).map (·.2) = plainText cs :=
  map_snd_placed offset _

theorem plainText_append (hx : Standalone xs) (ys : List Char) :
    plainText (xs ++ ys) = plainText xs ++ plainText ys := by
  rw [plainText, hx, Scan.append, plainWord_append]
  rfl

end Plain

section Depth

/-- The depth behind a text that begins at a depth. -/
def depthAfter : Nat → List Char → Option Nat
  | depth, [] => some depth
  | depth, c :: cs =>
    if c = '(' then depthAfter (depth + 1) cs
    else if c = ')' then
      match depth with
      | 0 => none
      | depth + 1 => depthAfter depth cs
    else depthAfter depth cs

variable {depth behind : Nat} {xs ys : List Char}

theorem depthAfter_append (depth : Nat) (xs ys : List Char) : depthAfter depth (xs ++ ys) =
    (depthAfter depth xs).bind fun behind => depthAfter behind ys := by
  induction xs generalizing depth with
  | nil => rfl
  | cons c xs ih =>
      simp only [List.cons_append, depthAfter]
      split_ifs
      · exact ih _
      · cases depth with
        | zero => rfl
        | succ depth => exact ih _
      · exact ih _

theorem depthAfter_of_forall_ne (h : ∀ c ∈ xs, c ≠ '(' ∧ c ≠ ')') (depth : Nat) :
    depthAfter depth xs = some depth := by
  induction xs with
  | nil => rfl
  | cons c xs ih =>
      obtain ⟨hopen, hclose⟩ := h c (by simp)
      simp [depthAfter, hopen, hclose, ih fun e he => h e (List.mem_cons_of_mem _ he)]

/-- What keeps to a depth keeps to it inside more parentheses as well. -/
theorem depthAfter_add (h : depthAfter depth xs = some behind) (more : Nat) :
    depthAfter (depth + more) xs = some (behind + more) := by
  induction xs generalizing depth with
  | nil => simpa [depthAfter] using h
  | cons c xs ih =>
      simp only [depthAfter] at h ⊢
      split_ifs at h ⊢
      · simpa [Nat.add_right_comm] using ih h
      · cases depth with
        | zero => simp at h
        | succ depth => simpa [Nat.succ_add] using ih h
      · exact ih h

/-- Plain characters that lead from one depth to another without a semicolon. -/
def Leads (depth : Nat) (xs : List Char) (behind : Nat) : Prop :=
  ';' ∉ xs ∧ depthAfter depth xs = some behind

instance (depth : Nat) (xs : List Char) (behind : Nat) : Decidable (Leads depth xs behind) :=
  inferInstanceAs (Decidable (_ ∧ _))

theorem Leads.append {middle : Nat} (hx : Leads depth xs middle) (hy : Leads middle ys behind) :
    Leads depth (xs ++ ys) behind := by
  refine ⟨by simp [hx.1, hy.1], ?_⟩
  rw [depthAfter_append, hx.2]
  exact hy.2

theorem Leads.add (h : Leads depth xs behind) (more : Nat) :
    Leads (depth + more) xs (behind + more) :=
  ⟨h.1, depthAfter_add h.2 more⟩

/-- Characters that count for nothing may stand in front. -/
theorem leads_append_left_iff (h : ∀ c ∈ xs, c ≠ ';' ∧ c ≠ '(' ∧ c ≠ ')') :
    Leads depth (xs ++ ys) behind ↔ Leads depth ys behind := by
  have hend : ';' ∉ xs := fun hm => (h _ hm).1 rfl
  rw [Leads, Leads, List.mem_append, depthAfter_append,
    depthAfter_of_forall_ne (fun c hc => (h c hc).2)]
  simp [hend]

/-- Characters that count for nothing may follow. -/
theorem leads_append_right_iff (h : ∀ c ∈ ys, c ≠ ';' ∧ c ≠ '(' ∧ c ≠ ')') :
    Leads depth (xs ++ ys) behind ↔ Leads depth xs behind := by
  have hend : ';' ∉ ys := fun hm => (h _ hm).1 rfl
  have hdepth (depth : Nat) : depthAfter depth ys = some depth :=
    depthAfter_of_forall_ne (fun c hc => (h c hc).2) depth
  rw [Leads, Leads, List.mem_append, depthAfter_append]
  simp [hend, hdepth]

theorem Leads.group (h : Leads 0 xs 0) : Leads 0 ('(' :: xs ++ [')']) 0 := by
  have hopen : Leads 0 ['('] 1 := by decide
  have hclose : Leads 1 [')'] 0 := by decide
  exact (hopen.append (h.add 1)).append hclose

/-- **What the check of a source query accepts**: no open region, no plain semicolon, and plain
parentheses that match among themselves. -/
theorem checkNesting_eq_ok_iff (region : Option OpenRegion) (offset depth : Nat)
    (lexemes : List Lexeme) :
    checkNesting region offset depth lexemes = .ok () ↔
      region = none ∧ Leads depth (plainWord lexemes) 0 := by
  rw [Leads]
  induction lexemes generalizing offset depth with
  | nil =>
      cases region with
      | none => by_cases h : depth = 0 <;> simp [checkNesting, plainWord, depthAfter, h]
      | some region => simp [checkNesting]
  | cons lexeme rest ih =>
      cases lexeme with
      | plain c =>
          have hword : plainWord (.plain c :: rest) = c :: plainWord rest := rfl
          rw [hword]
          by_cases hopen : c = '('
          · subst hopen
            simp [checkNesting, depthAfter, ih]
          by_cases hclose : c = ')'
          · subst hclose
            cases depth <;> simp [checkNesting, depthAfter, ih]
          by_cases hend : c = ';'
          · subst hend
            simp [checkNesting]
          · simp [checkNesting, depthAfter, hopen, hclose, hend, Ne.symm hend, ih]
      | _ => exact ih _ _

/-- Every region of the text is closed, no semicolon is plain, and the plain parentheses match
among themselves. -/
def IsNested (cs : List Char) : Prop :=
  (Scan.ofText cs).openRegion = none ∧ Leads 0 (plainText cs) 0

theorem IsNested.append (hstandalone : Standalone xs) (hx : IsNested xs) (hy : IsNested ys) :
    IsNested (xs ++ ys) := by
  refine ⟨?_, ?_⟩
  · rw [hstandalone]
    exact hy.1
  · rw [plainText_append hstandalone]
    exact hx.2.append hy.2

theorem isNested_of_checkSource {cs : List Char} (h : checkSource cs = .ok ()) : IsNested cs := by
  rw [checkSource] at h
  split_ifs at h
  exact (checkNesting_eq_ok_iff _ _ _ _).mp h

end Depth

end Sql
end VectorTiles
