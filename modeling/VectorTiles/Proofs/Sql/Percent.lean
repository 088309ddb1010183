import VectorTiles.Proofs.Sql.Nesting

/-!
# Doubled percent signs

A text is given to the driver with its percent signs doubled. A percent sign belongs to no mark of
a region, so the scan keeps its shape.

**Results.**

* `Scan.inContext_escapePercent`: doubling percent signs doubles them in every lexeme.
* `isNested_escapePercent_iff`: doubling percent signs does not matter for the nesting.
-/

namespace VectorTiles
namespace Sql

section Percent

variable {context : Context} {c : Char} {rest : List Char} {lexeme : Lexeme}

/-- A lexeme with the percent signs inside its region doubled. -/
def Lexeme.escaped : Lexeme → Lexeme
  | plain c => plain c
  | quoted quote body => quoted quote (escapePercent body)
  | escape body => escape (escapePercent body)
  | dollar tag body => dollar tag (escapePercent body)
  | lineComment body ended => lineComment (escapePercent body) ended
  | blockComment body => blockComment (escapePercent body)

/-- The lexemes that a lexeme becomes when percent signs are doubled. -/
def Lexeme.escapedAll (lexeme : Lexeme) : List Lexeme :=
  if lexeme = .plain '%' then [lexeme, lexeme] else [lexeme.escaped]

theorem escapePercent_cons_of_ne (h : c ≠ '%') (cs : List Char) :
    escapePercent (c :: cs) = c :: escapePercent cs :=
  doubled_cons_of_ne h

theorem escapePercent_append (cs ds : List Char) :
    escapePercent (cs ++ ds) = escapePercent cs ++ escapePercent ds :=
  doubled_append '%' cs ds

theorem mem_escapePercent {cs : List Char} : c ∈ escapePercent cs ↔ c ∈ cs :=
  mem_doubled

theorem escapePercent_of_notMem {cs : List Char} (h : '%' ∉ cs) : escapePercent cs = cs :=
  doubled_of_notMem h

theorem notMem_tag {tag : List Char} (h : ∀ e ∈ tag, isTagChar e = true) : '%' ∉ tag :=
  fun hm => absurd (h _ hm) (by decide)

theorem opening_escapePercent (context : Context) (c : Char) (rest : List Char) :
    opening context c (escapePercent rest) = opening context c rest := by
  have htag : isTagChar '%' = false := by decide
  have hdollar : '%' ≠ '$' := by decide
  simp only [opening, escapePercent, head?_doubled, tag?_doubled htag hdollar]

/-- Doubling percent signs changes the body of a lexeme and nothing else about it. -/
theorem readLexeme_escapePercent (context : Context) (hc : c ≠ '%') (rest : List Char) :
    readLexeme context c (escapePercent rest) =
      (readLexeme context c rest).map Lexeme.escaped := by
  have hshow := opening_shows context c rest
  rw [readLexeme_eq_read, readLexeme_eq_read, opening_escapePercent]
  cases hopen : opening context c rest <;> rw [hopen] at hshow
  case escape =>
      simp only [Opening.read, escapePercent, escapeBody?_doubled (show '%' ≠ '\\' by decide)
        (show '%' ≠ '\'' by decide)]
      cases escapeBody? rest <;> rfl
  case quoted =>
      simp only [Opening.read, escapePercent, quotedBody?_doubled hc.symm]
      cases quotedBody? c rest <;> rfl
  case dollar tag =>
      obtain ⟨-, htag⟩ := hshow
      obtain ⟨⟨tail, rfl⟩, hchars⟩ := tag?_eq_some htag
      have hmark : '%' ∉ dollarMark tag := by simp [dollarMark, notMem_tag hchars]
      rw [escapePercent_append, escapePercent_cons_of_ne (by decide),
        escapePercent_of_notMem (notMem_tag hchars)]
      simp only [Opening.read, drop_tag, escapePercent,
        before?_doubled (show dollarMark tag ≠ [] by simp [dollarMark]) hmark]
      cases before? (dollarMark tag) tail <;> rfl
  case lineComment =>
      obtain ⟨rfl, tail, rfl⟩ := hshow
      rw [escapePercent_cons_of_ne (by decide)]
      simp only [Opening.read, List.tail_cons, escapePercent,
        before?_doubled (show ['\n'] ≠ [] by simp) (show '%' ∉ ['\n'] by decide)]
      cases before? ['\n'] tail <;> rfl
  case blockComment =>
      obtain ⟨rfl, tail, rfl⟩ := hshow
      rw [escapePercent_cons_of_ne (by decide)]
      simp only [Opening.read, List.tail_cons, escapePercent,
        before?_doubled (show ['*', '/'] ≠ [] by simp) (show '%' ∉ ['*', '/'] by decide)]
      cases before? ['*', '/'] tail <;> rfl
  case plain => rfl

theorem text_escaped (hc : c ≠ '%') (h : readLexeme context c rest = .ok lexeme) :
    lexeme.escaped.text = escapePercent lexeme.text := by
  have hread := readLexeme_eq_ok h
  have hshow := opening_shows context c rest
  cases hopen : opening context c rest <;> rw [hopen] at hread hshow
  case quoted =>
      obtain ⟨body, -, rfl⟩ := Opening.close_eq_ok.mp hread
      simp [Lexeme.escaped, Lexeme.text, escapePercent, doubled_cons_of_ne hc]
  case dollar tag =>
      obtain ⟨body, -, rfl⟩ := Opening.close_eq_ok.mp hread
      obtain ⟨-, hchars⟩ := tag?_eq_some hshow.2
      have hmark : '%' ∉ dollarMark tag := by simp [dollarMark, notMem_tag hchars]
      simp [Lexeme.escaped, Lexeme.text, escapePercent_append, escapePercent_of_notMem hmark]
  case lineComment =>
      simp only [Opening.read] at hread
      cases hbody : before? ['\n'] rest.tail <;> rw [hbody] at hread <;>
        obtain rfl := Except.ok.inj hread <;>
        simp [Lexeme.escaped, Lexeme.text, escapePercent, doubled_cons_of_ne]
  case plain =>
      obtain rfl : lexeme = .plain c := by simpa [Opening.read] using hread.symm
      simp [Lexeme.escaped, Lexeme.text, escapePercent, doubled_cons_of_ne hc]
  all_goals
    obtain ⟨body, -, rfl⟩ := Opening.close_eq_ok.mp hread
    simp [Lexeme.escaped, Lexeme.text, escapePercent, doubled_cons_of_ne]

/-- **Doubling percent signs doubles them in every lexeme** and changes nothing else in a scan. -/
theorem Scan.inContext_escapePercent (context : Context) (cs : List Char) :
    Scan.inContext context (escapePercent cs) =
      ⟨(Scan.inContext context cs).lexemes.flatMap Lexeme.escapedAll,
        (Scan.inContext context cs).openRegion⟩ := by
  induction context, cs using Scan.inContext.induct with
  | case1 context =>
      rw [Scan.inContext_nil]
      exact Scan.inContext_nil context
  | case2 context c rest region hread =>
      have hc : c ≠ '%' := by
        rintro rfl
        simp [readLexeme_eq_read, opening_of_isInert context (show isInert '%' = true by decide),
          Opening.read] at hread
      have hescaped : readLexeme context c (escapePercent rest) = .error region := by
        rw [readLexeme_escapePercent context hc, hread]
        rfl
      rw [escapePercent_cons_of_ne hc, Scan.inContext_cons_error hread,
        Scan.inContext_cons_error hescaped]
      rfl
  | case3 context c rest lexeme hread ih =>
      by_cases hc : c = '%'
      · subst hc
        have hinert : isInert '%' = true := by decide
        obtain rfl : lexeme = .plain '%' := by
          simpa [readLexeme_eq_read, opening_of_isInert context hinert, Opening.read]
            using hread.symm
        have hrest : Scan.ofText (escapePercent rest) =
            ⟨(Scan.ofText rest).lexemes.flatMap Lexeme.escapedAll,
              (Scan.ofText rest).openRegion⟩ := by
          rwa [Context.after, Context.afterChar_of_isInert context hinert] at ih
        rw [show escapePercent ('%' :: rest) = '%' :: '%' :: escapePercent rest from
          doubled_cons_self '%' rest, Scan.inContext_cons_inert context hinert,
          Scan.inContext_cons_inert context hinert, Scan.ofText,
          Scan.inContext_cons_inert .fresh hinert, hrest]
        rfl
      · have hne : lexeme ≠ .plain '%' := by
          rintro rfl
          have := text_prefix_of_readLexeme hread
          simp [Lexeme.text, List.cons_prefix_cons] at this
          exact hc this.symm
        have hcontext : context.after lexeme.escaped = context.after lexeme := by
          cases lexeme <;> rfl
        have hdrop : (c :: escapePercent rest).drop lexeme.escaped.length =
            escapePercent ((c :: rest).drop lexeme.length) := by
          obtain ⟨tail, htail⟩ := text_prefix_of_readLexeme hread
          rw [← escapePercent_cons_of_ne hc, ← htail, escapePercent_append, Lexeme.length,
            Lexeme.length, ← text_escaped hc hread, List.drop_left, List.drop_left]
        have hescaped : readLexeme context c (escapePercent rest) = .ok lexeme.escaped := by
          rw [readLexeme_escapePercent context hc, hread]
          rfl
        rw [escapePercent_cons_of_ne hc, Scan.inContext_cons hread, Scan.inContext_cons hescaped,
          hcontext, hdrop, ih, List.flatMap_cons, Lexeme.escapedAll, if_neg hne]
        rfl

/-- Doubling percent signs doubles the plain ones. -/
theorem plainWord_escapePercent (context : Context) (cs : List Char) :
    plainWord (Scan.inContext context (escapePercent cs)).lexemes =
      escapePercent (plainWord (Scan.inContext context cs).lexemes) := by
  rw [Scan.inContext_escapePercent]
  generalize (Scan.inContext context cs).lexemes = lexemes
  induction lexemes with
  | nil => rfl
  | cons lexeme rest ih =>
      have hfirst : plainWord lexeme.escapedAll = escapePercent lexeme.plain?.toList := by
        by_cases hp : lexeme = .plain '%'
        · subst hp
          rfl
        · rw [Lexeme.escapedAll, if_neg hp]
          cases lexeme with
          | plain c => exact (escapePercent_cons_of_ne (by simpa using hp) []).symm
          | _ => rfl
      rw [List.flatMap_cons, plainWord_append, plainWord_cons, escapePercent_append, ih, hfirst]

theorem Scan.isComplete_escapePercent {cs : List Char}
    (h : (Scan.inContext context cs).IsComplete) :
    (Scan.inContext context (escapePercent cs)).IsComplete := by
  rw [Scan.inContext_escapePercent]
  refine ⟨h.1, fun lexeme hmem => ?_⟩
  obtain ⟨original, horiginal, hmem⟩ := List.mem_flatMap.mp hmem
  have hend := h.2 original horiginal
  rw [Lexeme.escapedAll] at hmem
  split_ifs at hmem with hp
  · simp_all [Lexeme.isEnded]
  · obtain rfl := List.mem_singleton.mp hmem
    cases original <;> simp_all [Lexeme.escaped, Lexeme.isEnded]

theorem depthAfter_escapePercent (depth : Nat) (cs : List Char) :
    depthAfter depth (escapePercent cs) = depthAfter depth cs := by
  induction cs generalizing depth with
  | nil => rfl
  | cons c cs ih =>
      by_cases hc : c = '%'
      · subst hc
        rw [show escapePercent ('%' :: cs) = '%' :: '%' :: escapePercent cs from
          doubled_cons_self '%' cs]
        simp [depthAfter, ih]
      · rw [escapePercent_cons_of_ne hc]
        simp only [depthAfter, ih]

theorem isNested_escapePercent_iff (cs : List Char) :
    IsNested (escapePercent cs) ↔ IsNested cs := by
  have hopen : (Scan.ofText (escapePercent cs)).openRegion = (Scan.ofText cs).openRegion := by
    rw [Scan.ofText, Scan.inContext_escapePercent, Scan.ofText]
  have hplain : plainText (escapePercent cs) = escapePercent (plainText cs) :=
    plainWord_escapePercent .fresh cs
  rw [IsNested, IsNested, Leads, Leads, hopen, hplain, depthAfter_escapePercent, mem_escapePercent]

end Percent

end Sql
end VectorTiles
