import VectorTiles.Proofs.Sql.Grammar
import VectorTiles.Proofs.Tileset.Acceptance

/-!
# Verdicts on source queries

A source query is accepted if the grammar decomposes it and its plain characters are in order. Of
any other text the first defect is reported.

**Data.** Parentheses match among themselves if the text is made of groups and of other characters.
A text lacks as many closing parentheses as have to be written behind it so that they match.

**Rules.** A text passes up to a place if it is not blank, and the text in front of the place has
lexemes, no plain semicolon, and no closing parenthesis without an opening one. The first defect
stands where a text passes up to and not any further.

**Results.**

* `lacks_iff`: the depth behind a text is the number of parentheses that it lacks.
* `Passes.checkSource_eq`: the check goes on from every place up to which a text passes.
* `checkSource_verdict`: which texts are accepted, and what is said of all others.
-/

namespace VectorTiles
namespace Sql

section Balance

/-- Parentheses match among themselves. -/
inductive IsBalanced : List Char → Prop
  | nil : IsBalanced []
  | other {c : Char} {cs : List Char} (hopen : c ≠ '(') (hclose : c ≠ ')') (h : IsBalanced cs) :
    IsBalanced (c :: cs)
  | group {inner cs : List Char} (hinner : IsBalanced inner) (h : IsBalanced cs) :
    IsBalanced ('(' :: inner ++ ')' :: cs)

/-- With so many closing parentheses behind it, the parentheses of a text match. -/
def Lacks (cs : List Char) (count : Nat) : Prop :=
  IsBalanced (cs ++ List.replicate count ')')

variable {cs : List Char} {depth count : Nat}

theorem IsBalanced.depthAfter_eq (h : IsBalanced cs) : depthAfter 0 cs = some 0 := by
  induction h with
  | nil => rfl
  | other hopen hclose _ ih => rw [depthAfter, if_neg hopen, if_neg hclose, ih]
  | @group inner cs _ _ hinner hcs =>
      have hinside : depthAfter 1 inner = some 1 := depthAfter_add hinner 1
      rw [List.cons_append, depthAfter, if_pos rfl, Nat.zero_add, depthAfter_append, hinside]
      exact hcs

/-- The innermost of several open parentheses is closed behind a text in which they match. -/
theorem exists_of_depthAfter_succ (h : depthAfter (depth + 1) cs = some 0) :
    ∃ inner rest, cs = inner ++ ')' :: rest ∧ IsBalanced inner ∧
      depthAfter depth rest = some 0 := by
  -- Behind a group inside, the text that is left is shorter but not the tail.
  induction hlength : cs.length using Nat.strong_induction_on generalizing cs depth with
  | _ length ih =>
    cases cs with
    | nil => cases h
    | cons c cs =>
        have hshort : cs.length < length := by simp [← hlength]
        rw [depthAfter] at h
        split_ifs at h with hopen hclose
        · subst hopen
          obtain ⟨inner, rest, rfl, hinner, hrest⟩ := ih _ hshort h rfl
          have hshorter : rest.length < length := by
            simp only [List.length_append, List.length_cons] at hshort
            omega
          obtain ⟨next, back, rfl, hnext, hback⟩ := ih _ hshorter hrest rfl
          exact ⟨'(' :: inner ++ ')' :: next, back, by simp, .group hinner hnext, hback⟩
        · subst hclose
          exact ⟨[], cs, rfl, .nil, h⟩
        · obtain ⟨inner, rest, rfl, hinner, hrest⟩ := ih _ hshort h rfl
          exact ⟨c :: inner, rest, rfl, .other hopen hclose hinner, hrest⟩

theorem isBalanced_of_depthAfter (h : depthAfter 0 cs = some 0) : IsBalanced cs := by
  induction hlength : cs.length using Nat.strong_induction_on generalizing cs with
  | _ length ih =>
    cases cs with
    | nil => exact .nil
    | cons c cs =>
        have hshort : cs.length < length := by simp [← hlength]
        rw [depthAfter] at h
        split_ifs at h with hopen hclose
        · subst hopen
          obtain ⟨inner, rest, rfl, hinner, hrest⟩ := exists_of_depthAfter_succ h
          have hshorter : rest.length < length := by
            simp only [List.length_append, List.length_cons] at hshort
            omega
          exact .group hinner (ih _ hshorter hrest rfl)
        · exact .other hopen hclose (ih _ hshort h rfl)

theorem isBalanced_iff : IsBalanced cs ↔ depthAfter 0 cs = some 0 :=
  ⟨IsBalanced.depthAfter_eq, isBalanced_of_depthAfter⟩

theorem depthAfter_replicate (depth count : Nat) :
    depthAfter depth (List.replicate count ')') = some 0 ↔ depth = count := by
  induction count generalizing depth with
  | zero => simp [depthAfter]
  | succ count ih =>
      cases depth with
      | zero => simp [List.replicate_succ, depthAfter]
      | succ depth => simp [List.replicate_succ, depthAfter, ih]

/-- **The depth behind a text is the number of closing parentheses that it lacks.** -/
theorem lacks_iff : Lacks cs count ↔ depthAfter 0 cs = some count := by
  rw [Lacks, isBalanced_iff, depthAfter_append]
  cases depthAfter 0 cs with
  | none => simp
  | some depth => simp [depthAfter_replicate]

theorem lacks_zero_iff : Lacks cs 0 ↔ IsBalanced cs := by
  rw [Lacks, List.replicate_zero, List.append_nil]

end Balance

section Nesting

variable {region : Option OpenRegion} {offset depth behind : Nat} {front back : List Lexeme}
  {c : Char} {cs : List Char}

theorem leads_opening_iff : Leads depth ('(' :: cs) behind ↔ Leads (depth + 1) cs behind := by
  simp [Leads, depthAfter]

theorem leads_closing_iff : Leads (depth + 1) (')' :: cs) behind ↔ Leads depth cs behind := by
  simp [Leads, depthAfter]

theorem leads_other_iff (hend : c ≠ ';') (hopen : c ≠ '(') (hclose : c ≠ ')') :
    Leads depth (c :: cs) behind ↔ Leads depth cs behind := by
  simp [Leads, depthAfter, hopen, hclose, Ne.symm hend]

/-- The check goes on behind lexemes that lead to a depth. -/
theorem checkNesting_append (h : Leads depth (plainWord front) behind) :
    checkNesting region offset depth (front ++ back) =
      checkNesting region (offset + (textOf front).length) behind back := by
  induction front generalizing offset depth with
  | nil =>
      obtain rfl : depth = behind := by simpa [plainWord, depthAfter] using h.2
      rfl
  | cons lexeme front ih =>
      have hoffset : offset + (textOf (lexeme :: front)).length =
          offset + lexeme.length + (textOf front).length := by
        rw [textOf_cons, List.length_append, Lexeme.length, Nat.add_assoc]
      rw [hoffset]
      cases lexeme with
      | plain c =>
          have hword : plainWord (.plain c :: front) = c :: plainWord front := rfl
          rw [hword] at h
          have hend : c ≠ ';' := fun hc => h.1 (by simp [hc])
          by_cases hopen : c = '('
          · subst hopen
            exact ih (leads_opening_iff.mp h)
          by_cases hclose : c = ')'
          · subst hclose
            cases depth with
            | zero => cases h.2
            | succ depth => exact ih (leads_closing_iff.mp h)
          · have hcheck : checkNesting region offset depth (.plain c :: (front ++ back)) =
                checkNesting region (offset + (Lexeme.plain c).length) depth (front ++ back) := by
              simp [checkNesting, hopen, hclose, hend]
            exact hcheck.trans (ih ((leads_other_iff hend hopen hclose).mp h))
      | _ => exact ih h

/-- Lexemes lead to a depth, unless a semicolon or an unmatched parenthesis is among them. -/
theorem leads_or_stops (lexemes : List Lexeme) (depth : Nat) :
    (∃ behind, Leads depth (plainWord lexemes) behind) ∨
      ∃ front c back behind, lexemes = front ++ .plain c :: back ∧
        Leads depth (plainWord front) behind ∧ (c = ';' ∨ c = ')' ∧ behind = 0) := by
  induction lexemes generalizing depth with
  | nil => exact .inl ⟨depth, by simp [plainWord], rfl⟩
  | cons lexeme lexemes ih =>
      -- What holds behind the first lexeme holds of the whole, if that lexeme leads to `next`.
      have hstep (next : Nat)
          (hfirst : ∀ {more behind}, Leads next (plainWord more) behind →
            Leads depth (plainWord (lexeme :: more)) behind) :
          (∃ behind, Leads depth (plainWord (lexeme :: lexemes)) behind) ∨
            ∃ front c back behind, lexeme :: lexemes = front ++ .plain c :: back ∧
              Leads depth (plainWord front) behind ∧ (c = ';' ∨ c = ')' ∧ behind = 0) := by
        rcases ih next with ⟨behind, hleads⟩ | ⟨front, c, back, behind, rfl, hleads, hstop⟩
        · exact .inl ⟨behind, hfirst hleads⟩
        · exact .inr ⟨lexeme :: front, c, back, behind, rfl, hfirst hleads, hstop⟩
      have hnone : Leads depth (plainWord []) depth := ⟨by simp [plainWord], rfl⟩
      cases lexeme with
      | plain c =>
          by_cases hend : c = ';'
          · exact .inr ⟨[], c, lexemes, depth, rfl, hnone, .inl hend⟩
          by_cases hopen : c = '('
          · subst hopen
            exact hstep (depth + 1) leads_opening_iff.mpr
          by_cases hclose : c = ')'
          · subst hclose
            cases depth with
            | zero => exact .inr ⟨[], ')', lexemes, 0, rfl, hnone, .inr ⟨rfl, rfl⟩⟩
            | succ depth => exact hstep depth leads_closing_iff.mpr
          · exact hstep depth (leads_other_iff hend hopen hclose).mpr
      | _ => exact hstep depth id

end Nesting

section Verdicts

/-- Nothing is wrong with a text up to a place, where it lacks so many parentheses. -/
structure Passes (cs : List Char) (lexemes : List Lexeme) (rest : List Char) (depth : Nat) :
    Prop where
  not_isBlankText : ¬ Text.IsBlankText cs
  text_eq : textOf lexemes ++ rest = cs
  mayFollow : MayFollow [] lexemes rest
  no_terminator : ';' ∉ plainWord lexemes
  lacks : Lacks (plainWord lexemes) depth

/-- What is wrong first with a text. -/
inductive IsFirstDefect (cs : List Char) : SourceFault → Prop
  | blank (h : Text.IsBlankText cs) : IsFirstDefect cs .blank
  | openRegion {lexemes : List Lexeme} {rest : List Char} {depth : Nat} {region : OpenRegion}
      (h : Passes cs lexemes rest depth) (hopen : LeavesOpen (textOf lexemes) rest region) :
      IsFirstDefect cs (.openRegion region (textOf lexemes).length)
  | unmatchedClosing {lexemes : List Lexeme} {rest : List Char}
      (h : Passes cs lexemes (')' :: rest) 0) :
      IsFirstDefect cs (.unmatchedClosing (textOf lexemes).length)
  | terminator {lexemes : List Lexeme} {rest : List Char} {depth : Nat}
      (h : Passes cs lexemes (';' :: rest) depth) :
      IsFirstDefect cs (.terminator (textOf lexemes).length)
  | unclosed {lexemes : List Lexeme} {depth : Nat} (h : Passes cs lexemes [] (depth + 1)) :
      IsFirstDefect cs (.unclosed (depth + 1))

variable {cs rest : List Char} {lexemes front back : List Lexeme} {depth : Nat}
  {fault : SourceFault}

theorem strip_isEmpty_iff : (Text.strip cs).isEmpty = true ↔ Text.IsBlankText cs := by
  rw [List.isEmpty_iff, strip_eq_nil_iff]

theorem checkSource_of_not_isBlankText (h : ¬ Text.IsBlankText cs) :
    checkSource cs = checkNesting (Scan.ofText cs).openRegion 0 0 (Scan.ofText cs).lexemes := by
  rw [checkSource, if_neg (mt strip_isEmpty_iff.mp h)]

/-- **The check goes on from every place up to which a text passes.** -/
theorem Passes.checkSource_eq (h : Passes cs lexemes rest depth) :
    ∃ later : Context, later.Suits (textOf lexemes) rest ∧
      checkSource cs = checkNesting (Scan.inContext later rest).openRegion (textOf lexemes).length
        depth (Scan.inContext later rest).lexemes := by
  obtain ⟨hblank, rfl, hfollow, hend, hlacks⟩ := h
  obtain ⟨later, hlater, hscan⟩ := hfollow.inContext_eq (.inl Context.fits_nil)
  refine ⟨later, hlater, ?_⟩
  rw [checkSource_of_not_isBlankText hblank, Scan.ofText, hscan, Scan.append,
    checkNesting_append ⟨hend, lacks_iff.mp hlacks⟩, Nat.zero_add]

/-- A character that is plain wherever it stands. -/
theorem Passes.checkSource_cons {d : Char} (h : Passes cs lexemes (d :: rest) depth)
    (hd : isInert d = true) :
    ∃ region more, checkSource cs =
      checkNesting region (textOf lexemes).length depth (.plain d :: more) := by
  obtain ⟨later, -, hcheck⟩ := h.checkSource_eq
  rw [Scan.inContext_cons_inert later hd] at hcheck
  exact ⟨_, _, hcheck⟩

theorem Passes.checkSource_nil (h : Passes cs lexemes [] depth) :
    checkSource cs = if depth = 0 then .ok () else .error (.unclosed depth) := by
  obtain ⟨later, -, hcheck⟩ := h.checkSource_eq
  rw [Scan.inContext_nil] at hcheck
  exact hcheck

theorem IsFirstDefect.checkSource_eq (h : IsFirstDefect cs fault) :
    checkSource cs = .error fault := by
  cases h with
  | blank h => rw [checkSource, if_pos (strip_isEmpty_iff.mpr h)]
  | @openRegion lexemes rest depth region h hopen =>
      obtain ⟨later, hlater, hcheck⟩ := h.checkSource_eq
      obtain ⟨⟨c, hc, -⟩, -⟩ := id hopen
      obtain ⟨tail, rfl⟩ := List.head?_eq_some_iff.mp hc
      have hfits := hlater.resolve_right (List.cons_ne_nil _ _)
      rw [Scan.inContext_cons_error ((readLexeme_eq_error_iff hfits).mpr hopen)] at hcheck
      exact hcheck
  | unmatchedClosing h =>
      obtain ⟨region, more, hcheck⟩ := h.checkSource_cons (by decide)
      exact hcheck
  | terminator h =>
      obtain ⟨region, more, hcheck⟩ := h.checkSource_cons (by decide)
      exact hcheck
  | unclosed h =>
      rw [h.checkSource_nil, if_neg (Nat.succ_ne_zero _)]

theorem textOf_append (front back : List Lexeme) :
    textOf (front ++ back) = textOf front ++ textOf back :=
  List.flatMap_append

theorem MayFollow.of_append {before : List Char} (h : MayFollow before (front ++ back) rest) :
    MayFollow before front (textOf back ++ rest) := by
  induction front generalizing before with
  | nil => exact .nil before _
  | cons lexeme front ih =>
      rw [List.cons_append] at h
      cases h with
      | cons hfirst hothers =>
          rw [textOf_append, List.append_assoc] at hfirst
          exact .cons hfirst (ih hothers)

/-- A text that is not blank passes up to its end, or has a first defect. -/
theorem passes_or_isFirstDefect (hblank : ¬ Text.IsBlankText cs) :
    (∃ lexemes, Passes cs lexemes [] 0) ∨ ∃ fault, IsFirstDefect cs fault := by
  obtain ⟨rest, hcs, hfollow, hend⟩ :=
    exists_mayFollow (.inl Context.fits_nil : Context.fresh.Suits [] cs)
  generalize Scan.inContext .fresh cs = scan at hcs hfollow hend
  obtain ⟨lexemes, region⟩ := scan
  rcases leads_or_stops lexemes 0 with
    ⟨depth, hno, hdepth⟩ | ⟨front, c, back, depth, rfl, ⟨hno, hdepth⟩, hstop⟩
  · have hpasses : Passes cs lexemes rest depth :=
      ⟨hblank, hcs.symm, hfollow, hno, lacks_iff.mpr hdepth⟩
    cases region with
    | some region => exact .inr ⟨_, .openRegion hpasses hend⟩
    | none =>
        obtain rfl : rest = [] := hend
        cases depth with
        | zero => exact .inl ⟨lexemes, hpasses⟩
        | succ depth => exact .inr ⟨_, .unclosed hpasses⟩
  · have hpasses : Passes cs front (c :: (textOf back ++ rest)) depth := by
      refine ⟨hblank, ?_, hfollow.of_append, hno, lacks_iff.mpr hdepth⟩
      rw [hcs, textOf_append, textOf_cons]
      simp [Lexeme.text]
    rcases hstop with rfl | ⟨rfl, rfl⟩
    · exact .inr ⟨_, .terminator hpasses⟩
    · exact .inr ⟨_, .unmatchedClosing hpasses⟩

/-- **Which texts are accepted as source queries, and what is said of all others.** A text has at
most one decomposition. It is accepted if and only if one of its characters is not blank, it has a
decomposition, no semicolon is plain and the plain parentheses match among themselves. Of any other
text the first defect is reported, and of a blank text that it is empty. -/
theorem checkSource_verdict (cs : List Char) :
    (∀ first second, IsDecomposition cs first → IsDecomposition cs second → first = second) ∧
      (checkSource cs = .ok () ↔ (∃ c ∈ cs, Text.isBlank c = false) ∧
        ∃ lexemes, IsDecomposition cs lexemes ∧ ';' ∉ plainWord lexemes ∧
          IsBalanced (plainWord lexemes)) ∧
      (checkSource cs ≠ .ok () → ∃ fault, checkSource cs = .error fault ∧ IsFirstDefect cs fault) ∧
      (∀ fault, IsFirstDefect cs fault → checkSource cs = .error fault) ∧
      (Text.IsBlankText cs → ∃ fault, checkSource cs = .error fault ∧
        fault.message = "source query is empty") := by
  have hblank : ¬ Text.IsBlankText cs ↔ ∃ c ∈ cs, Text.isBlank c = false := by
    simp [Text.IsBlankText]
  refine ⟨fun first second => IsDecomposition.unique, ⟨fun hok => ?_, ?_⟩, fun hne => ?_,
    fun fault => IsFirstDefect.checkSource_eq, fun hempty => ?_⟩
  · have hnot : ∀ fault, ¬ IsFirstDefect cs fault := fun fault hdefect => by
      rw [hdefect.checkSource_eq] at hok
      cases hok
    have hfull : ¬ Text.IsBlankText cs := fun hempty => hnot _ (.blank hempty)
    refine ⟨hblank.mp hfull, ?_⟩
    rcases passes_or_isFirstDefect hfull with ⟨lexemes, hpasses⟩ | ⟨fault, hdefect⟩
    · obtain ⟨-, htext, hfollow, hno, hlacks⟩ := hpasses
      exact ⟨lexemes, ⟨by simpa using htext, hfollow⟩, hno, lacks_zero_iff.mp hlacks⟩
    · exact absurd hdefect (hnot fault)
  · rintro ⟨hfull, lexemes, ⟨htext, hfollow⟩, hno, hbalanced⟩
    have hpasses : Passes cs lexemes [] 0 :=
      ⟨hblank.mpr hfull, by simpa using htext, hfollow, hno, lacks_zero_iff.mpr hbalanced⟩
    exact hpasses.checkSource_nil
  · by_cases hempty : Text.IsBlankText cs
    · exact ⟨_, (IsFirstDefect.blank hempty).checkSource_eq, .blank hempty⟩
    · rcases passes_or_isFirstDefect hempty with ⟨lexemes, hpasses⟩ | ⟨fault, hdefect⟩
      · exact absurd hpasses.checkSource_nil hne
      · exact ⟨fault, hdefect.checkSource_eq, hdefect⟩
  · exact ⟨.blank, (IsFirstDefect.blank hempty).checkSource_eq, rfl⟩

/-- The parenthesis in the quoted text does not count, the one behind it comes first. -/
example : checkSource "SELECT ')' ) -- ;".toList = .error (.unmatchedClosing 11) := by
  decide +kernel

end Verdicts

end Sql
end VectorTiles
