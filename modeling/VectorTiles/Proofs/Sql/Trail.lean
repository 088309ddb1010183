import VectorTiles.Proofs.Sql.Nesting
import VectorTiles.Text.Blank

/-!
# Blanks around a text

A text is scanned with blanks in front of it or behind it, or without them. Blanks are inert: in
front of the text they are read one by one, behind it they are plain or go on with a line comment.

**Results.**

* `Scan.inContext_append_trail`: inert characters behind a text open no region and close none but a
  line comment.
* `Scan.isComplete_append_newline`: a line end behind a text ends its last comment.
* `isNested_append_iff`, `isNested_strip_iff`: blanks around a text do not matter for its nesting.
-/

namespace VectorTiles
namespace Sql

section Trail

variable {trail : List Char}

/-- The plain characters of a text are among its characters. -/
theorem mem_of_mem_plainWord (context : Context) (cs : List Char) :
    ∀ e ∈ plainWord (Scan.inContext context cs).lexemes, e ∈ cs := by
  induction context, cs using Scan.inContext.induct with
  | case1 context => simp [Scan.inContext_nil, plainWord]
  | case2 context c rest region hread => simp [Scan.inContext_cons_error hread, plainWord]
  | case3 context c rest lexeme hread ih =>
      intro e he
      rw [Scan.inContext_cons hread, plainWord_cons] at he
      cases hplain : lexeme.plain? with
      | none =>
          rw [hplain] at he
          exact List.mem_of_mem_drop (ih e he)
      | some d =>
          rw [hplain] at he
          rcases List.mem_cons.mp he with rfl | he
          · apply (text_prefix_of_readLexeme hread).subset
            cases lexeme <;> simp_all [Lexeme.plain?, Lexeme.text]
          · exact List.mem_of_mem_drop (ih e he)

/-- A line comment that reaches the end of the text takes in what follows up to a line end. -/
theorem Scan.inContext_hyphens_trail {body : List Char} (hbody : '\n' ∉ body)
    (ht : ∀ d ∈ trail, isInert d = true) (context : Context) :
    (Scan.inContext context ('-' :: '-' :: (body ++ trail))).openRegion = none ∧
      ∀ e ∈ plainWord (Scan.inContext context ('-' :: '-' :: (body ++ trail))).lexemes,
        e ∈ trail := by
  have hread := readLexeme_hyphens context (body ++ trail)
  cases hline : before? ['\n'] (body ++ trail) with
  | none =>
      rw [hline] at hread
      rw [Scan.inContext_cons hread, List.drop_of_length_le (by simp [Lexeme.length, Lexeme.text]),
        Scan.inContext_nil]
      simp [plainWord, Lexeme.plain?]
  | some line =>
      rw [hline] at hread
      obtain ⟨back, hback⟩ := before?_eq_some hline
      -- the line end is one of the characters behind the comment
      obtain ⟨front, htrail⟩ : ∃ front, trail = front ++ back := by
        rcases List.append_eq_append_iff.mp hback with ⟨front, -, htrail⟩ | ⟨front, hfront, -⟩
        · exact ⟨front, htrail⟩
        · exact absurd (by simp [hfront]) hbody
      have hdrop : ('-' :: '-' :: (body ++ trail)).drop (Lexeme.lineComment line true).length =
          back := by
        rw [hback, Lexeme.length]
        exact List.drop_left' (by simp)
      have hback' : ∀ d ∈ back, isInert d = true := fun d hd => ht d (by simp [htrail, hd])
      rw [Scan.inContext_cons hread, hdrop]
      refine ⟨(Standalone.of_forall_isInert hback').openRegion, fun e he => ?_⟩
      rw [htrail]
      exact List.mem_append_right _ (mem_of_mem_plainWord .fresh back e he)

/-- Inert characters behind a text open no region and close none but a line comment. -/
theorem Scan.inContext_append_trail (ht : ∀ d ∈ trail, isInert d = true) (context : Context)
    (cs : List Char) :
    (Scan.inContext context (cs ++ trail)).openRegion = (Scan.inContext context cs).openRegion ∧
      ∃ tail, plainWord (Scan.inContext context (cs ++ trail)).lexemes =
        plainWord (Scan.inContext context cs).lexemes ++ tail ∧ ∀ e ∈ tail, e ∈ trail := by
  cases trail with
  | nil => exact ⟨by rw [List.append_nil], [], by simp, by simp⟩
  | cons d more =>
    have hd : isInert d = true := ht d (by simp)
    induction context, cs using Scan.inContext.induct with
    | case1 context =>
        have hopen := (Standalone.of_forall_isInert ht).openRegion
        rw [List.nil_append, Scan.inContext_nil]
        refine ⟨?_, _, (List.nil_append _).symm, mem_of_mem_plainWord context (d :: more)⟩
        rw [Scan.inContext_cons_inert context hd]
        rwa [Scan.ofText, Scan.inContext_cons_inert .fresh hd] at hopen
    | case2 context c rest region hread =>
        rw [List.cons_append, Scan.inContext_cons_error hread,
          Scan.inContext_cons_error (readLexeme_append_error hread ht)]
        exact ⟨rfl, [], rfl, by simp⟩
    | case3 context c rest lexeme hread ih =>
        cases hend : lexeme.isEnded with
        | true =>
            obtain ⟨hopen, tail, hplain, htail⟩ := ih
            rw [List.cons_append, Scan.inContext_cons hread,
              Scan.inContext_cons (readLexeme_append hread hend hd more),
              drop_append_of_readLexeme hread]
            refine ⟨hopen, tail, ?_, htail⟩
            rw [plainWord_cons, plainWord_cons]
            cases lexeme.plain? with
            | none => exact hplain
            | some e => exact congrArg (e :: ·) hplain
        | false =>
            obtain ⟨body, rfl, rfl, rfl, hbody⟩ := eq_lineComment_of_not_isEnded hread hend
            obtain ⟨hopen, htail⟩ := Scan.inContext_hyphens_trail hbody ht context
            have halone : Scan.inContext context ('-' :: '-' :: body) =
                ⟨[.lineComment body false], none⟩ := by
              rw [Scan.inContext_cons hread,
                List.drop_of_length_le (by simp [Lexeme.length, Lexeme.text]), Scan.inContext_nil]
            rw [List.cons_append, List.cons_append, halone]
            exact ⟨hopen, _, rfl, htail⟩

end Trail

section LineEnd

variable {context : Context} {cs : List Char}

/-- A lexeme that has not come to its end is a line comment at the end of the text. -/
theorem Scan.eq_append_of_not_isEnded {lexeme : Lexeme}
    (hmem : lexeme ∈ (Scan.inContext context cs).lexemes) (hend : lexeme.isEnded = false) :
    ∃ front body, cs = front ++ '-' :: '-' :: body ∧ '\n' ∉ body := by
  induction context, cs using Scan.inContext.induct with
  | case1 context => simp [Scan.inContext_nil] at hmem
  | case2 context c rest region hread => simp [Scan.inContext_cons_error hread] at hmem
  | case3 context c rest first hread ih =>
      rw [Scan.inContext_cons hread] at hmem
      rcases List.mem_cons.mp hmem with rfl | hmem
      · obtain ⟨body, -, rfl, rfl, hbody⟩ := eq_lineComment_of_not_isEnded hread hend
        exact ⟨[], body, rfl, hbody⟩
      · obtain ⟨front, body, hdrop, hbody⟩ := ih hmem
        refine ⟨(c :: rest).take first.length ++ front, body, ?_, hbody⟩
        rw [List.append_assoc, ← hdrop, List.take_append_drop]

/-- A line end behind a text ends its last comment. -/
theorem Scan.isComplete_append_newline (h : (Scan.inContext context cs).openRegion = none) :
    (Scan.inContext context (cs ++ ['\n'])).IsComplete := by
  have hinert : ∀ d ∈ ['\n'], isInert d = true := List.forall_mem_singleton.mpr (by decide)
  refine ⟨(Scan.inContext_append_trail hinert context cs).1.trans h, fun lexeme hmem => ?_⟩
  by_contra hend
  obtain ⟨front, body, hcs, hbody⟩ :=
    Scan.eq_append_of_not_isEnded hmem (Bool.eq_false_iff.mpr hend)
  have hlast : ('-' :: '-' :: body).getLast? = some '\n' := by
    have := congrArg List.getLast? hcs
    rw [List.getLast?_append_of_ne_nil _ (by simp)] at this
    simpa using this.symm
  rcases List.mem_cons.mp (List.mem_of_getLast? hlast) with he | he
  · exact absurd he (by decide)
  · rcases List.mem_cons.mp he with he | he
    · exact absurd he (by decide)
    · exact hbody he

end LineEnd

section Blanks

variable {cs lead trail : List Char}

/-- The code points of the blank characters. -/
def blankCodes : List Nat :=
  [0x09, 0x0a, 0x0b, 0x0c, 0x0d, 0x1c, 0x1d, 0x1e, 0x1f, 0x20, 0x85, 0xa0, 0x1680, 0x2000, 0x2001,
    0x2002, 0x2003, 0x2004, 0x2005, 0x2006, 0x2007, 0x2008, 0x2009, 0x200a, 0x2028, 0x2029, 0x202f,
    0x205f, 0x3000]

theorem toNat_mem_blankCodes {c : Char} (h : Text.isBlank c = true) : c.toNat ∈ blankCodes := by
  simp only [Text.isBlank, Text.isWhiteSpace, Bool.or_eq_true, Bool.and_eq_true, decide_eq_true_eq,
    beq_iff_eq] at h
  simp only [blankCodes, List.mem_cons, List.not_mem_nil, or_false]
  omega

theorem isInert_of_isBlank {c : Char} (h : Text.isBlank c = true) : isInert c = true := by
  have hall : ∀ n ∈ blankCodes, isInert (Char.ofNat n) = true := by decide +kernel
  rw [← Char.ofNat_toNat c]
  exact hall _ (toNat_mem_blankCodes h)

/-- Characters that count for nothing in a source query. -/
theorem ne_of_isBlank {c : Char} (h : Text.isBlank c = true) : c ≠ ';' ∧ c ≠ '(' ∧ c ≠ ')' := by
  refine ⟨?_, ?_, ?_⟩ <;>
  · rintro rfl
    exact absurd h (by decide)

theorem isNested_append_iff (ht : ∀ c ∈ trail, Text.isBlank c = true) :
    IsNested (cs ++ trail) ↔ IsNested cs := by
  obtain ⟨hopen, tail, hplain, htail⟩ :=
    Scan.inContext_append_trail (fun c hc => isInert_of_isBlank (ht c hc)) .fresh cs
  have hblank : ∀ c ∈ tail, c ≠ ';' ∧ c ≠ '(' ∧ c ≠ ')' :=
    fun c hc => ne_of_isBlank (ht c (htail c hc))
  rw [IsNested, IsNested, plainText, plainText, Scan.ofText, Scan.ofText, hopen, hplain,
    leads_append_right_iff hblank]

theorem isNested_append_left_iff (hl : ∀ c ∈ lead, Text.isBlank c = true) :
    IsNested (lead ++ cs) ↔ IsNested cs := by
  have hlead := Standalone.of_forall_isInert fun c hc => isInert_of_isBlank (hl c hc)
  have hblank : ∀ c ∈ plainText lead, c ≠ ';' ∧ c ≠ '(' ∧ c ≠ ')' :=
    fun c hc => ne_of_isBlank (hl c (mem_of_mem_plainWord .fresh lead c hc))
  rw [IsNested, IsNested, plainText_append hlead, leads_append_left_iff hblank, hlead]
  rfl

/-- A text is what is left of it between the blanks at both ends. -/
theorem exists_eq_strip (cs : List Char) :
    ∃ lead trail, cs = lead ++ Text.strip cs ++ trail ∧ (∀ c ∈ lead, Text.isBlank c = true) ∧
      ∀ c ∈ trail, Text.isBlank c = true := by
  have hback := List.takeWhile_append_dropWhile (p := Text.isBlank)
    (l := (cs.dropWhile Text.isBlank).reverse)
  refine ⟨cs.takeWhile Text.isBlank,
    ((cs.dropWhile Text.isBlank).reverse.takeWhile Text.isBlank).reverse, ?_,
    fun c hc => List.mem_takeWhile_imp hc,
    fun c hc => List.mem_takeWhile_imp (List.mem_reverse.mp hc)⟩
  rw [List.append_assoc, Text.strip, Text.trimBoth, ← List.reverse_append, hback,
    List.reverse_reverse, List.takeWhile_append_dropWhile]

theorem isNested_strip_iff (cs : List Char) : IsNested (Text.strip cs) ↔ IsNested cs := by
  obtain ⟨lead, trail, hcs, hlead, htrail⟩ := exists_eq_strip cs
  conv_rhs => rw [hcs, isNested_append_iff htrail, isNested_append_left_iff hlead]

end Blanks

end Sql
end VectorTiles
