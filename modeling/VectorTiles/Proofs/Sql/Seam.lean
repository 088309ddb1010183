import VectorTiles.Proofs.Sql.Region

/-!
# Seams between texts

A text that is put together from parts is scanned as a whole. This module says when the lexemes of
the whole are the lexemes of its parts one after another, so that nothing of a part reaches into
the next one.

**Data.** An inert character belongs to no name and to none of the marks of a region; blanks,
parentheses and commas are inert. A scan is complete when every region ends within the text, line
comments included.

**Algorithm.** Reading a lexeme is split into its opening, which says what kind of lexeme begins,
and the reading of the rest of it. The opening looks at most at a tag ahead.

**Results.**

* `readLexeme_eq_read`: reading in two steps.
* `Scan.inContext_append_inert`: behind a complete scan, an inert character starts afresh.
* `Standalone`: a text whose scan is the same whatever follows it, and leaves no trace in that.
-/

namespace VectorTiles
namespace Sql

section Opening

/-- What kind of lexeme begins at a character. -/
inductive Opening where
  | escape
  | quoted
  | dollar (tag : List Char)
  | lineComment
  | blockComment
  | plain
  deriving DecidableEq, Repr

/-- The kind of the lexeme that begins with the character `c` and goes on in `rest`. -/
def opening (context : Context) (c : Char) (rest : List Char) : Opening :=
  if c = '\'' ∧ context = .escapeMark then .escape
  else if c = '\'' ∨ c = '"' then .quoted
  else if c = '$' ∧ context = .fresh then
    match tag? rest with
    | some tag => .dollar tag
    | none => .plain
  else if c = '-' ∧ rest.head? = some '-' then .lineComment
  else if c = '/' ∧ rest.head? = some '*' then .blockComment
  else .plain

/-- A lexeme once its body has been looked for. -/
def Opening.close (region : OpenRegion) (lexeme : List Char → Lexeme) :
    Option (List Char) → Except OpenRegion Lexeme
  | some body => .ok (lexeme body)
  | none => .error region

theorem Opening.close_eq_ok {region : OpenRegion} {f : List Char → Lexeme}
    {body : Option (List Char)} {lexeme : Lexeme} :
    close region f body = .ok lexeme ↔ ∃ b, body = some b ∧ lexeme = f b := by
  cases body <;> simp [close, eq_comm]

theorem Opening.close_eq_error {region other : OpenRegion} {f : List Char → Lexeme}
    {body : Option (List Char)} :
    close region f body = .error other ↔ body = none ∧ region = other := by
  cases body <;> simp [close]

/-- The lexeme of a known kind. -/
def Opening.read (c : Char) (rest : List Char) : Opening → Except OpenRegion Lexeme
  | escape => close (.quote c) .escape (escapeBody? rest)
  | quoted => close (.quote c) (.quoted c) (quotedBody? c rest)
  | dollar tag =>
    close .dollar (.dollar tag) (before? (dollarMark tag) (rest.drop (tag.length + 1)))
  | lineComment =>
    match before? ['\n'] rest.tail with
    | some body => .ok (.lineComment body true)
    | none => .ok (.lineComment rest.tail false)
  | blockComment => close .comment .blockComment (before? ['*', '/'] rest.tail)
  | plain => .ok (.plain c)

theorem readLexeme_eq_read (context : Context) (c : Char) (rest : List Char) :
    readLexeme context c rest = (opening context c rest).read c rest := by
  unfold readLexeme opening
  split_ifs
  · unfold Opening.read Opening.close
    cases escapeBody? rest <;> rfl
  · unfold Opening.read Opening.close
    cases quotedBody? c rest <;> rfl
  · cases tag? rest with
    | none => rfl
    | some tag =>
        unfold Opening.read Opening.close
        cases before? (dollarMark tag) (rest.drop (tag.length + 1)) <;> rfl
  · rfl
  · unfold Opening.read Opening.close
    cases before? ['*', '/'] rest.tail <;> rfl
  · rfl

/-- What an opening says about the text. -/
def Opening.Shows (c : Char) (rest : List Char) : Opening → Prop
  | escape => c = '\''
  | quoted => c = '\'' ∨ c = '"'
  | dollar tag => c = '$' ∧ tag? rest = some tag
  | lineComment => c = '-' ∧ ∃ tail, rest = '-' :: tail
  | blockComment => c = '/' ∧ ∃ tail, rest = '*' :: tail
  | plain => True

theorem opening_shows (context : Context) (c : Char) (rest : List Char) :
    (opening context c rest).Shows c rest := by
  unfold opening
  split_ifs with h1 h2 h3 h4 h5
  · exact h1.1
  · exact h2
  · cases htag : tag? rest with
    | none => trivial
    | some tag => exact ⟨h3.1, htag⟩
  · exact ⟨h4.1, List.head?_eq_some_iff.mp h4.2⟩
  · exact ⟨h5.1, List.head?_eq_some_iff.mp h5.2⟩
  · trivial

end Opening

section Inert

/-- A character that belongs to no name and to none of the marks of a region. -/
def isInert (c : Char) : Bool :=
  !(Text.isIdentifierChar c || ['\'', '"', '-', '/', '*'].contains c)

/-- Whether a lexeme has come to its end, so that it cannot take in what follows. -/
def Lexeme.isEnded : Lexeme → Bool
  | lineComment _ ended => ended
  | _ => true

variable {c d : Char}

theorem isInert_iff : isInert c = true ↔
    Text.isIdentifierChar c = false ∧ c ≠ '\'' ∧ c ≠ '"' ∧ c ≠ '-' ∧ c ≠ '/' ∧ c ≠ '*' := by
  simp [isInert]

theorem toNat_lt_of_isAlphanum (h : c.isAlphanum = true) : c.toNat < 0x80 := by
  rcases Bool.or_eq_true_iff.mp h with hletter | hdigit
  · rcases Bool.or_eq_true_iff.mp hletter with hupper | hlower
    · have hle : c.toNat ≤ 90 := (of_decide_eq_true hupper).2
      omega
    · have hle : c.toNat ≤ 122 := of_decide_eq_true (Bool.and_eq_true_iff.mp hlower).2
      omega
  · have hle : c.toNat ≤ 57 := of_decide_eq_true (Bool.and_eq_true_iff.mp hdigit).2
    omega

theorem isIdentifierChar_of_isTagChar (h : isTagChar c = true) :
    Text.isIdentifierChar c = true := by
  rcases Bool.or_eq_true_iff.mp h with h | h
  · simp [Text.isIdentifierChar, Text.isAlphanumeric, toNat_lt_of_isAlphanum h, h]
  · simp [Text.isIdentifierChar, h]

theorem isTagChar_eq_false_of_isInert (h : isInert c = true) : isTagChar c = false := by
  cases ht : isTagChar c with
  | false => rfl
  | true => simpa [isIdentifierChar_of_isTagChar ht] using (isInert_iff.mp h).1

theorem ne_dollar_of_isInert (h : isInert c = true) : c ≠ '$' := by
  rintro rfl
  exact absurd h (by decide)

theorem Context.afterChar_of_isInert (context : Context) (h : isInert c = true) :
    context.afterChar c = .fresh := by
  simp [Context.afterChar, (isInert_iff.mp h).1]

theorem head?_append_cons {e : Char} (h : d ≠ e) (rest more : List Char) :
    (rest ++ d :: more).head? = some e ↔ rest.head? = some e := by
  cases rest <;> simp [h]

theorem opening_append (context : Context) (c : Char) (hd : isInert d = true)
    (rest more : List Char) :
    opening context c (rest ++ d :: more) = opening context c rest := by
  obtain ⟨_, _, _, hminus, _, hstar⟩ := isInert_iff.mp hd
  simp only [opening, head?_append_cons hminus, head?_append_cons hstar,
    tag?_append (isTagChar_eq_false_of_isInert hd) (ne_dollar_of_isInert hd)]

theorem opening_of_isInert (context : Context) (h : isInert c = true) (rest : List Char) :
    opening context c rest = .plain := by
  obtain ⟨_, hsingle, hdouble, hminus, hslash, _⟩ := isInert_iff.mp h
  simp [opening, hsingle, hdouble, hminus, hslash, ne_dollar_of_isInert h]

end Inert

section Reading

variable {context : Context} {c d : Char} {rest more : List Char} {lexeme : Lexeme}

/-- What stands behind the mark that opens a dollar-quoted body. -/
theorem drop_tag (tag tail : List Char) : (tag ++ '$' :: tail).drop (tag.length + 1) = tail := by
  rw [List.append_cons, List.drop_left' (by simp)]

theorem readLexeme_eq_ok (h : readLexeme context c rest = .ok lexeme) :
    (opening context c rest).read c rest = .ok lexeme := by
  rw [← readLexeme_eq_read, h]

/-- What a lexeme of a kind needs at its front. -/
def Opening.Fits (c : Char) (rest : List Char) : Opening → Prop
  | escape => c = '\''
  | quoted => c = '\'' ∨ c = '"'
  | dollar tag => c = '$' ∧ ∃ tail, rest = tag ++ '$' :: tail
  | lineComment => c = '-' ∧ ∃ tail, rest = '-' :: tail
  | blockComment => c = '/' ∧ ∃ tail, rest = '*' :: tail
  | plain => True

theorem Opening.Shows.fits {kind : Opening} (h : kind.Shows c rest) : kind.Fits c rest := by
  cases kind with
  | dollar tag => exact ⟨h.1, (tag?_eq_some h.2).1⟩
  | _ => exact h

/-- A lexeme stands at the front of the text it is read from. -/
theorem Opening.text_prefix_of_read {kind : Opening} (hfits : kind.Fits c rest)
    (hread : kind.read c rest = .ok lexeme) : lexeme.text <+: c :: rest := by
  cases kind with
  | escape =>
      obtain ⟨body, hbody, rfl⟩ := Opening.close_eq_ok.mp hread
      obtain ⟨tail, rfl⟩ := escapeBody?_eq_some hbody
      obtain rfl : c = '\'' := hfits
      exact ⟨tail, by simp [Lexeme.text]⟩
  | quoted =>
      obtain ⟨body, hbody, rfl⟩ := Opening.close_eq_ok.mp hread
      obtain ⟨tail, rfl⟩ := quotedBody?_eq_some hbody
      exact ⟨tail, by simp [Lexeme.text]⟩
  | dollar tag =>
      obtain ⟨rfl, tail, rfl⟩ := hfits
      obtain ⟨body, hbody, rfl⟩ := Opening.close_eq_ok.mp hread
      rw [drop_tag] at hbody
      obtain ⟨back, rfl⟩ := before?_eq_some hbody
      exact ⟨back, by simp [Lexeme.text, dollarMark]⟩
  | lineComment =>
      obtain ⟨rfl, tail, rfl⟩ := hfits
      simp only [Opening.read, List.tail_cons] at hread
      cases hbody : before? ['\n'] tail with
      | none =>
          obtain rfl : lexeme = .lineComment tail false := by simpa [hbody] using hread.symm
          exact ⟨[], by simp [Lexeme.text]⟩
      | some body =>
          obtain rfl : lexeme = .lineComment body true := by simpa [hbody] using hread.symm
          obtain ⟨back, rfl⟩ := before?_eq_some hbody
          exact ⟨back, by simp [Lexeme.text]⟩
  | blockComment =>
      obtain ⟨rfl, tail, rfl⟩ := hfits
      obtain ⟨body, hbody, rfl⟩ := Opening.close_eq_ok.mp hread
      obtain ⟨back, rfl⟩ := before?_eq_some hbody
      exact ⟨back, by simp [Lexeme.text]⟩
  | plain =>
      obtain rfl : lexeme = .plain c := by simpa [Opening.read] using hread.symm
      exact ⟨rest, rfl⟩

theorem text_prefix_of_readLexeme (h : readLexeme context c rest = .ok lexeme) :
    lexeme.text <+: c :: rest :=
  Opening.text_prefix_of_read (opening_shows context c rest).fits (readLexeme_eq_ok h)

/-- Only a line comment can be read without its end. -/
theorem Opening.isEnded_of_read {kind : Opening} (hread : kind.read c rest = .ok lexeme)
    (hkind : kind ≠ .lineComment) : lexeme.isEnded = true := by
  cases kind with
  | lineComment => exact absurd rfl hkind
  | plain =>
      obtain rfl : lexeme = .plain c := by simpa [Opening.read] using hread.symm
      rfl
  | _ =>
      obtain ⟨body, -, rfl⟩ := Opening.close_eq_ok.mp hread
      rfl

/-- A lexeme that has come to its end stays the same when an inert character follows the text. -/
theorem Opening.read_append {kind : Opening} (hfits : kind.Fits c rest)
    (hread : kind.read c rest = .ok lexeme) (hend : lexeme.isEnded = true) (hd : isInert d = true)
    (more : List Char) : kind.read c (rest ++ d :: more) = .ok lexeme := by
  obtain ⟨-, hsingle, hdouble, -⟩ := isInert_iff.mp hd
  cases kind with
  | escape =>
      obtain ⟨body, hbody, rfl⟩ := Opening.close_eq_ok.mp hread
      exact Opening.close_eq_ok.mpr ⟨body, escapeBody?_append hbody (by simpa using hsingle), rfl⟩
  | quoted =>
      obtain ⟨body, hbody, rfl⟩ := Opening.close_eq_ok.mp hread
      have hc : d ≠ c := by
        rcases hfits with rfl | rfl
        · exact hsingle
        · exact hdouble
      exact Opening.close_eq_ok.mpr ⟨body, quotedBody?_append hbody (by simpa using hc), rfl⟩
  | dollar tag =>
      obtain ⟨body, hbody, rfl⟩ := Opening.close_eq_ok.mp hread
      obtain ⟨-, tail, rfl⟩ := hfits
      rw [drop_tag] at hbody
      refine Opening.close_eq_ok.mpr ⟨body, ?_, rfl⟩
      rw [List.append_assoc, List.cons_append, drop_tag]
      exact before?_append hbody _
  | lineComment =>
      obtain ⟨rfl, tail, rfl⟩ := hfits
      simp only [Opening.read, List.cons_append, List.tail_cons] at hread ⊢
      cases hbody : before? ['\n'] tail with
      | none =>
          obtain rfl : lexeme = .lineComment tail false := by simpa [hbody] using hread.symm
          exact absurd hend (by simp [Lexeme.isEnded])
      | some body =>
          rw [before?_append hbody]
          simpa [hbody] using hread
  | blockComment =>
      obtain ⟨rfl, tail, rfl⟩ := hfits
      obtain ⟨body, hbody, rfl⟩ := Opening.close_eq_ok.mp hread
      exact Opening.close_eq_ok.mpr ⟨body, before?_append hbody _, rfl⟩
  | plain => exact hread

theorem readLexeme_append (h : readLexeme context c rest = .ok lexeme)
    (hend : lexeme.isEnded = true) (hd : isInert d = true) (more : List Char) :
    readLexeme context c (rest ++ d :: more) = .ok lexeme := by
  rw [readLexeme_eq_read, opening_append context c hd]
  exact Opening.read_append (opening_shows context c rest).fits (readLexeme_eq_ok h) hend hd more

/-- A region that the text leaves open stays open when only inert characters follow. -/
theorem readLexeme_append_error {region : OpenRegion} {trail : List Char}
    (h : readLexeme context c rest = .error region) (ht : ∀ d ∈ trail, isInert d = true) :
    readLexeme context c (rest ++ trail) = .error region := by
  have hnot : ∀ e, isInert e = false → e ∉ trail := by
    intro e he hm
    rw [ht e hm] at he
    exact absurd he (by simp)
  have hopens : opening context c (rest ++ trail) = opening context c rest := by
    cases trail with
    | nil => rw [List.append_nil]
    | cons d more => exact opening_append context c (ht d (by simp)) rest more
  have hshow := opening_shows context c rest
  rw [readLexeme_eq_read] at h ⊢
  rw [hopens]
  cases hopen : opening context c rest <;> rw [hopen] at h hshow
  case escape =>
      obtain ⟨hbody, hregion⟩ := Opening.close_eq_error.mp h
      exact Opening.close_eq_error.mpr
        ⟨escapeBody?_append_eq_none hbody (hnot _ (by decide)), hregion⟩
  case quoted =>
      obtain ⟨hbody, hregion⟩ := Opening.close_eq_error.mp h
      have hc : isInert c = false := by rcases hshow with rfl | rfl <;> decide
      exact Opening.close_eq_error.mpr
        ⟨quotedBody?_append_eq_none hbody (hnot _ hc), hregion⟩
  case dollar tag =>
      obtain ⟨hbody, hregion⟩ := Opening.close_eq_error.mp h
      obtain ⟨⟨tail, rfl⟩, -⟩ := tag?_eq_some hshow.2
      rw [drop_tag] at hbody
      refine Opening.close_eq_error.mpr ⟨?_, hregion⟩
      rw [List.append_assoc, List.cons_append, drop_tag]
      have hlast : (dollarMark tag).getLast? = some '$' := List.getLast?_concat
      exact before?_append_eq_none hbody hlast (hnot _ (by decide))
  case lineComment =>
      simp only [Opening.read] at h
      cases hbody : before? ['\n'] rest.tail <;> simp [hbody] at h
  case blockComment =>
      obtain ⟨rfl, tail, rfl⟩ := hshow
      obtain ⟨hbody, hregion⟩ := Opening.close_eq_error.mp h
      have hlast : ['*', '/'].getLast? = some '/' := rfl
      exact Opening.close_eq_error.mpr
        ⟨before?_append_eq_none hbody hlast (hnot _ (by decide)), hregion⟩
  case plain => simp [Opening.read] at h

theorem before?_newline_eq_none_iff {cs : List Char} : before? ['\n'] cs = none ↔ '\n' ∉ cs := by
  rw [before?_eq_none_iff (by simp), List.singleton_infix_iff]

/-- The only lexeme that has not come to its end is a line comment over the rest of the text. -/
theorem eq_lineComment_of_not_isEnded (h : readLexeme context c rest = .ok lexeme)
    (hend : lexeme.isEnded = false) :
    ∃ body, lexeme = .lineComment body false ∧ c = '-' ∧ rest = '-' :: body ∧ '\n' ∉ body := by
  have hread := readLexeme_eq_ok h
  have hshow := opening_shows context c rest
  have hopen : opening context c rest = .lineComment := by
    by_contra hother
    rw [Opening.isEnded_of_read hread hother] at hend
    cases hend
  rw [hopen] at hread hshow
  obtain ⟨rfl, tail, rfl⟩ := hshow
  simp only [Opening.read, List.tail_cons] at hread
  cases hbody : before? ['\n'] tail with
  | none =>
      obtain rfl : lexeme = .lineComment tail false := by simpa [hbody] using hread.symm
      exact ⟨tail, rfl, rfl, rfl, before?_newline_eq_none_iff.mp hbody⟩
  | some body =>
      obtain rfl : lexeme = .lineComment body true := by simpa [hbody] using hread.symm
      simp [Lexeme.isEnded] at hend

/-- Two hyphens begin a line comment in every context. -/
theorem readLexeme_hyphens (context : Context) (cs : List Char) :
    readLexeme context '-' ('-' :: cs) =
      match before? ['\n'] cs with
      | some body => .ok (.lineComment body true)
      | none => .ok (.lineComment cs false) := by
  rw [readLexeme_eq_read]
  simp [opening, Opening.read]

end Reading

section Scanning

variable {context : Context} {c d : Char} {xs : List Char}

theorem Scan.inContext_nil (context : Context) : Scan.inContext context [] = ⟨[], none⟩ := by
  rw [Scan.inContext]

/-- A scan whose first lexeme is known. -/
theorem Scan.inContext_cons {rest : List Char} {lexeme : Lexeme}
    (h : readLexeme context c rest = .ok lexeme) :
    Scan.inContext context (c :: rest) =
      ⟨lexeme :: (Scan.inContext (context.after lexeme) ((c :: rest).drop lexeme.length)).lexemes,
        (Scan.inContext (context.after lexeme) ((c :: rest).drop lexeme.length)).openRegion⟩ := by
  rw [Scan.inContext, h]

theorem Scan.inContext_cons_error {rest : List Char} {region : OpenRegion}
    (h : readLexeme context c rest = .error region) :
    Scan.inContext context (c :: rest) = ⟨[], some region⟩ := by
  rw [Scan.inContext, h]

/-- The scan of a text in front of the scan of another one. -/
def Scan.append (scan next : Scan) : Scan :=
  ⟨scan.lexemes ++ next.lexemes, next.openRegion⟩

/-- Every region ends within the text. -/
def Scan.IsComplete (scan : Scan) : Prop :=
  scan.openRegion = none ∧ ∀ lexeme ∈ scan.lexemes, lexeme.isEnded = true

instance (scan : Scan) : Decidable scan.IsComplete :=
  inferInstanceAs (Decidable (_ ∧ _))

/-- An inert character is plain and leaves no context behind. -/
theorem Scan.inContext_cons_inert (context : Context) (hd : isInert d = true) (ys : List Char) :
    Scan.inContext context (d :: ys) = Scan.append ⟨[.plain d], none⟩ (Scan.ofText ys) := by
  have hread : readLexeme context d ys = .ok (.plain d) := by
    rw [readLexeme_eq_read, opening_of_isInert context hd]
    rfl
  rw [Scan.inContext_cons hread]
  simp [Scan.append, Scan.ofText, Context.after, Context.afterChar_of_isInert context hd,
    Lexeme.length, Lexeme.text]

/-- The text behind the first lexeme is shorter, also when more text follows it. -/
theorem drop_append_of_readLexeme {rest ys : List Char} {lexeme : Lexeme}
    (h : readLexeme context c rest = .ok lexeme) :
    (c :: (rest ++ ys)).drop lexeme.length = (c :: rest).drop lexeme.length ++ ys := by
  have hlen : lexeme.length ≤ (c :: rest).length := (text_prefix_of_readLexeme h).length_le
  rw [← List.cons_append, List.drop_append_of_le_length hlen]

/-- **Behind a complete scan an inert character starts afresh.** Whatever follows it is scanned as
if it stood alone. -/
theorem Scan.inContext_append_inert (hd : isInert d = true) (ys : List Char) (context : Context)
    (xs : List Char) (hcomplete : (Scan.inContext context xs).IsComplete) :
    Scan.inContext context (xs ++ d :: ys) =
      ((Scan.inContext context xs).append ⟨[.plain d], none⟩).append (Scan.ofText ys) := by
  induction context, xs using Scan.inContext.induct with
  | case1 context =>
      rw [List.nil_append, Scan.inContext_cons_inert context hd, Scan.inContext_nil]
      rfl
  | case2 context c rest region hread =>
      rw [Scan.inContext_cons_error hread] at hcomplete
      exact absurd hcomplete.1 (by simp)
  | case3 context c rest lexeme hread ih =>
      rw [Scan.inContext_cons hread] at hcomplete ⊢
      have hend : lexeme.isEnded = true := hcomplete.2 lexeme (by simp)
      have hlater := ih ⟨hcomplete.1, fun l hl => hcomplete.2 l (List.mem_cons_of_mem _ hl)⟩
      rw [List.cons_append, Scan.inContext_cons (readLexeme_append hread hend hd ys),
        drop_append_of_readLexeme hread, hlater]
      rfl

end Scanning

section Standalone

variable {d : Char} {xs ys : List Char}

/-- A text that is scanned the same whatever follows it, and that leaves no trace in what
follows. -/
def Standalone (xs : List Char) : Prop :=
  ∀ ys, Scan.ofText (xs ++ ys) = (Scan.ofText xs).append (Scan.ofText ys)

theorem Scan.ofText_nil : Scan.ofText [] = ⟨[], none⟩ :=
  Scan.inContext_nil .fresh

theorem Standalone.nil : Standalone [] := fun ys => by
  rw [Scan.ofText_nil]
  rfl

theorem Standalone.openRegion (h : Standalone xs) : (Scan.ofText xs).openRegion = none := by
  have hself := h []
  rw [List.append_nil, Scan.ofText_nil] at hself
  rw [hself]
  rfl

theorem Standalone.append (hx : Standalone xs) (hy : Standalone ys) : Standalone (xs ++ ys) := by
  intro zs
  rw [List.append_assoc, hx, hy, hx]
  simp [Scan.append]

theorem Standalone.of_isComplete (h : (Scan.ofText xs).IsComplete) (hd : isInert d = true) :
    Standalone (xs ++ [d]) := by
  intro ys
  have hseam (zs : List Char) : Scan.ofText (xs ++ d :: zs) =
      ((Scan.ofText xs).append ⟨[.plain d], none⟩).append (Scan.ofText zs) :=
    Scan.inContext_append_inert hd zs .fresh xs h
  rw [List.append_assoc, List.singleton_append, hseam ys, hseam [], Scan.ofText_nil]
  simp [Scan.append]

theorem Standalone.singleton (hd : isInert d = true) : Standalone [d] := by
  have hnil : (Scan.ofText []).IsComplete := by simp [Scan.ofText_nil, Scan.IsComplete]
  exact Standalone.of_isComplete hnil hd

theorem Standalone.of_forall_isInert (h : ∀ d ∈ xs, isInert d = true) : Standalone xs := by
  induction xs with
  | nil => exact Standalone.nil
  | cons d xs ih =>
      exact (Standalone.singleton (h d (by simp))).append
        (ih fun e he => h e (List.mem_cons_of_mem _ he))

end Standalone

end Sql
end VectorTiles
