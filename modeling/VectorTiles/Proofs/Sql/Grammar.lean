import VectorTiles.Proofs.Sql.Nesting

/-!
# The lexical grammar of a query

The grammar says which lexemes may stand at a place of a text, without saying how they are found.

**Data.** A place lies between the text in front of it and the text behind it.

**Rules.**

* Inside a quoted text every quote is written twice, and no third one follows the closing quote.
* An escape string stands behind a letter E with no name in front. A backslash inside takes the
  character behind it.
* A dollar-quoted body has no name in front of it. The mark behind the body is its first repetition.
* A line comment ends with the first line feed, or with the text.
* A block comment ends with the first star that a slash follows.
* A character is plain where no region can be opened.

**Results.**

* `Lexeme.MayStand`, `MayFollow`: what may stand at a place.
* `mayStand_of_readLexeme`, `readLexeme_of_mayStand`, `readLexeme_eq_error_iff`: reading finds what may
  stand there, and finds a region open where nothing may.
* `ofText_eq_iff`: the lexemes of a text and its open region are those that the grammar gives.
* `IsDecomposition.unique`: a text has at most one decomposition.
-/

namespace VectorTiles
namespace Sql

section Places

/-- A name ends where a text does. -/
def EndsInName (front : List Char) : Prop :=
  front.getLast?.any Text.isIdentifierChar = true

instance (front : List Char) : Decidable (EndsInName front) :=
  inferInstanceAs (Decidable (_ = true))

/-- A letter E with no name in front of it ends where a text does. -/
def EndsInMark (front : List Char) : Prop :=
  (front.getLast? = some 'e' ∨ front.getLast? = some 'E') ∧ ¬ EndsInName front.dropLast

instance (front : List Char) : Decidable (EndsInMark front) :=
  inferInstanceAs (Decidable (_ ∧ _))

/-- What a context says of the text in front of a place. -/
def Context.Fits (front : List Char) : Context → Prop
  | fresh => ¬ EndsInName front
  | escapeMark => EndsInMark front
  | word => EndsInName front ∧ ¬ EndsInMark front

variable {front : List Char} {context : Context} {c : Char}

theorem endsInName_concat : EndsInName (front ++ [c]) ↔ Text.isIdentifierChar c = true := by
  simp [EndsInName]

theorem endsInMark_concat :
    EndsInMark (front ++ [c]) ↔ (c = 'e' ∨ c = 'E') ∧ ¬ EndsInName front := by
  simp [EndsInMark]

/-- The letter of an escape string is a name itself. -/
theorem EndsInMark.endsInName (h : EndsInMark front) : EndsInName front := by
  obtain ⟨hletter | hletter, -⟩ := h
  · rw [EndsInName, hletter]
    decide
  · rw [EndsInName, hletter]
    decide

theorem Context.Fits.eq_fresh_iff (h : context.Fits front) :
    context = .fresh ↔ ¬ EndsInName front := by
  cases context with
  | fresh => exact iff_of_true rfl h
  | escapeMark => exact iff_of_false nofun (not_not_intro h.endsInName)
  | word => exact iff_of_false nofun (not_not_intro h.1)

theorem Context.Fits.eq_escapeMark_iff (h : context.Fits front) :
    context = .escapeMark ↔ EndsInMark front := by
  cases context with
  | fresh => exact iff_of_false nofun fun hmark => h hmark.endsInName
  | escapeMark => exact iff_of_true rfl h
  | word => exact iff_of_false nofun h.2

theorem Context.Fits.afterChar (h : context.Fits front) (c : Char) :
    (context.afterChar c).Fits (front ++ [c]) := by
  rw [Context.afterChar]
  split_ifs with hother hletter
  · rw [Context.Fits, endsInName_concat]
    simpa using hother
  · rw [Context.Fits, endsInMark_concat]
    exact ⟨hletter.2, h.eq_fresh_iff.mp hletter.1⟩
  · rw [Context.Fits, endsInName_concat, endsInMark_concat]
    refine ⟨by simpa using hother, fun hmark => hletter ⟨h.eq_fresh_iff.mpr hmark.2, hmark.1⟩⟩

theorem Context.fits_nil : Context.fresh.Fits [] :=
  Bool.false_ne_true

/-- Behind a character that belongs to no name nothing is left of the text in front. -/
theorem Context.fits_fresh_concat (h : Text.isIdentifierChar c = false) (front : List Char) :
    Context.fresh.Fits (front ++ [c]) := by
  rw [Context.Fits, endsInName_concat, h]
  exact Bool.false_ne_true

end Places

section Bodies

/-- Every quote inside a text is written twice. -/
def IsDoubled (quote : Char) (body : List Char) : Prop :=
  ∃ cs, body = doubled quote cs

/-- The inside of an escape string. -/
inductive IsEscaped : List Char → Prop
  | nil : IsEscaped []
  | other {c : Char} {body : List Char} (hb : c ≠ '\\') (hq : c ≠ '\'') (h : IsEscaped body) :
    IsEscaped (c :: body)
  | backslash {c : Char} {body : List Char} (h : IsEscaped body) : IsEscaped ('\\' :: c :: body)
  | pair {body : List Char} (h : IsEscaped body) : IsEscaped ('\'' :: '\'' :: body)

/-- Nothing, or a name in ASCII. -/
def IsTag (tag : List Char) : Prop :=
  (∀ c ∈ tag, isTagChar c = true) ∧ tag.head?.all isTagStart = true

/-- A mark behind a body is the first one. -/
def EndsAtFirst (mark body : List Char) : Prop :=
  ¬ mark <:+: body ++ mark.dropLast

variable {quote : Char} {mark cs body tail tag : List Char}

theorem quotedBody?_doubled_closing (h : tail.head? ≠ some quote) (cs : List Char) :
    quotedBody? quote (doubled quote cs ++ quote :: tail) = some (doubled quote cs) := by
  induction cs with
  | nil => exact quotedBody?_closing h
  | cons c cs ih =>
      by_cases hc : c = quote
      · subst hc
        rw [doubled_cons_self, List.cons_append, List.cons_append, quotedBody?_cons_cons, ih]
        rfl
      · rw [doubled_cons_of_ne hc, List.cons_append, quotedBody?_cons_of_ne hc, ih]
        rfl

theorem isDoubled_of_quotedBody? (h : quotedBody? quote cs = some body) :
    IsDoubled quote body ∧ ∃ tail, cs = body ++ quote :: tail ∧ tail.head? ≠ some quote := by
  fun_induction quotedBody? quote cs generalizing body with
  | case1 => cases h
  | case2 =>
      cases h
      exact ⟨⟨[], rfl⟩, [], rfl, by simp⟩
  | case3 => cases h
  | case4 rest ih =>
      obtain ⟨inner, hinner, rfl⟩ := Option.map_eq_some_iff.mp h
      obtain ⟨⟨text, rfl⟩, tail, rfl, htail⟩ := ih hinner
      exact ⟨⟨quote :: text, (doubled_cons_self quote text).symm⟩, tail, rfl, htail⟩
  | case5 d rest hd =>
      cases h
      exact ⟨⟨[], rfl⟩, d :: rest, rfl, by simpa using hd⟩
  | case6 c d rest hc ih =>
      obtain ⟨inner, hinner, rfl⟩ := Option.map_eq_some_iff.mp h
      obtain ⟨⟨text, rfl⟩, tail, hcs, htail⟩ := ih hinner
      exact ⟨⟨c :: text, (doubled_cons_of_ne hc).symm⟩, tail, congrArg (c :: ·) hcs, htail⟩

theorem quotedBody?_eq_some_iff : quotedBody? quote cs = some body ↔
    IsDoubled quote body ∧ ∃ tail, cs = body ++ quote :: tail ∧ tail.head? ≠ some quote := by
  constructor
  · exact isDoubled_of_quotedBody?
  · rintro ⟨⟨text, rfl⟩, tail, rfl, htail⟩
    exact quotedBody?_doubled_closing htail text

theorem IsEscaped.escapeBody?_eq (h : IsEscaped body) (htail : tail.head? ≠ some '\'') :
    escapeBody? (body ++ '\'' :: tail) = some body := by
  induction h with
  | nil => exact escapeBody?_closing htail
  | other hb hq _ ih =>
      rw [List.cons_append, escapeBody?_cons_of_ne hb hq, ih]
      rfl
  | backslash _ ih =>
      rw [List.cons_append, List.cons_append, escapeBody?_backslash, ih]
      rfl
  | pair _ ih =>
      rw [List.cons_append, List.cons_append, escapeBody?_cons_cons, ih]
      rfl

theorem isEscaped_of_escapeBody? (h : escapeBody? cs = some body) :
    IsEscaped body ∧ ∃ tail, cs = body ++ '\'' :: tail ∧ tail.head? ≠ some '\'' := by
  fun_induction escapeBody? cs generalizing body with
  | case1 => cases h
  | case2 =>
      cases h
      exact ⟨.nil, [], rfl, by simp⟩
  | case3 => cases h
  | case4 d rest ih =>
      obtain ⟨inner, hinner, rfl⟩ := Option.map_eq_some_iff.mp h
      obtain ⟨hescaped, tail, rfl, htail⟩ := ih hinner
      exact ⟨.backslash hescaped, tail, rfl, htail⟩
  | case5 rest _ ih =>
      obtain ⟨inner, hinner, rfl⟩ := Option.map_eq_some_iff.mp h
      obtain ⟨hescaped, tail, rfl, htail⟩ := ih hinner
      exact ⟨.pair hescaped, tail, rfl, htail⟩
  | case6 d rest hd =>
      cases h
      exact ⟨.nil, d :: rest, rfl, by simpa using hd⟩
  | case7 c d rest hb hq ih =>
      obtain ⟨inner, hinner, rfl⟩ := Option.map_eq_some_iff.mp h
      obtain ⟨hescaped, tail, hcs, htail⟩ := ih hinner
      exact ⟨.other hb hq hescaped, tail, congrArg (c :: ·) hcs, htail⟩

theorem escapeBody?_eq_some_iff : escapeBody? cs = some body ↔
    IsEscaped body ∧ ∃ tail, cs = body ++ '\'' :: tail ∧ tail.head? ≠ some '\'' := by
  constructor
  · exact isEscaped_of_escapeBody?
  · rintro ⟨hescaped, tail, rfl, htail⟩
    exact hescaped.escapeBody?_eq htail

/-- What lies in a body and the mark behind it, but for the last character, lies in every text that
begins with them. -/
theorem prefix_of_append_dropLast (body mark tail : List Char) :
    body ++ mark.dropLast <+: body ++ mark ++ tail := by
  rw [List.append_assoc]
  refine (List.prefix_append_right_inj body).mpr ?_
  exact (List.dropLast_prefix mark).trans (List.prefix_append mark tail)

theorem endsAtFirst_of_before? (hm : mark ≠ []) (h : before? mark cs = some body) :
    EndsAtFirst mark body := by
  fun_induction before? mark cs generalizing body with
  | case1 hempty => exact absurd (List.isEmpty_iff.mp hempty) hm
  | case2 => cases h
  | case3 c cs hfirst =>
      cases h
      intro hwithin
      have hlength := hwithin.length_le
      have hpos := List.length_pos_iff.mpr hm
      simp only [List.nil_append, List.length_dropLast] at hlength
      omega
  | case4 c cs hfirst ih =>
      obtain ⟨inner, hinner, rfl⟩ := Option.map_eq_some_iff.mp h
      obtain ⟨tail, rfl⟩ := before?_eq_some hinner
      rw [EndsAtFirst, List.cons_append, List.infix_cons_iff, not_or]
      refine ⟨fun hprefix => hfirst (List.isPrefixOf_iff_prefix.mpr ?_), ih hinner⟩
      exact hprefix.trans (prefix_of_append_dropLast (c :: inner) mark tail)

theorem EndsAtFirst.before?_eq (hm : mark ≠ []) (h : EndsAtFirst mark body) (tail : List Char) :
    before? mark (body ++ mark ++ tail) = some body := by
  induction body with
  | nil =>
      obtain ⟨m, more, rfl⟩ := List.exists_cons_of_ne_nil hm
      have hfirst : (m :: more).isPrefixOf (m :: (more ++ tail)) = true :=
        List.isPrefixOf_iff_prefix.mpr (List.prefix_append (m :: more) tail)
      rw [List.nil_append, List.cons_append, before?, if_pos hfirst]
  | cons c body ih =>
      rw [EndsAtFirst, List.cons_append, List.infix_cons_iff, not_or] at h
      have hfirst : ¬ mark.isPrefixOf (c :: (body ++ mark ++ tail)) = true := by
        intro hprefix
        refine h.1 (List.prefix_of_prefix_length_le (List.isPrefixOf_iff_prefix.mp hprefix)
          (prefix_of_append_dropLast (c :: body) mark tail) ?_)
        simp only [List.length_cons, List.length_append, List.length_dropLast]
        omega
      rw [List.cons_append, List.cons_append, before?, if_neg hfirst, ih h.2]
      rfl

theorem before?_eq_some_iff (hm : mark ≠ []) : before? mark cs = some body ↔
    EndsAtFirst mark body ∧ ∃ tail, cs = body ++ mark ++ tail := by
  constructor
  · exact fun h => ⟨endsAtFirst_of_before? hm h, before?_eq_some h⟩
  · rintro ⟨hfirst, tail, rfl⟩
    exact hfirst.before?_eq hm tail

theorem endsAtFirst_newline_iff : EndsAtFirst ['\n'] body ↔ '\n' ∉ body := by
  rw [EndsAtFirst, List.dropLast_singleton, List.append_nil, List.singleton_infix_iff]

theorem tag?_eq_some_iff : tag? cs = some tag ↔ IsTag tag ∧ ∃ tail, cs = tag ++ '$' :: tail := by
  constructor
  · intro h
    obtain ⟨htail, hchars⟩ := tag?_eq_some h
    rw [tag?_eq] at h
    split_ifs at h with hmark
    exact ⟨⟨hchars, Option.some.inj h ▸ hmark.2⟩, htail⟩
  · rintro ⟨⟨hchars, hstart⟩, tail, rfl⟩
    have hstop : isTagChar '$' = false := by decide
    rw [tag?_eq, List.takeWhile_append_of_pos hchars, List.dropWhile_append_of_pos hchars,
      List.takeWhile_cons_of_neg (by simp [hstop]), List.dropWhile_cons_of_neg (by simp [hstop])]
    simp [hstart]

end Bodies

section Lexemes

/-- No region is opened by the character `c` between two texts. -/
structure IsPlainAt (front : List Char) (c : Char) (rest : List Char) : Prop where
  ne_apostrophe : c ≠ '\''
  ne_quotationMark : c ≠ '"'
  no_tag : c = '$' → ¬ EndsInName front → ∀ tag tail, IsTag tag → rest ≠ tag ++ '$' :: tail
  no_hyphens : c = '-' → rest.head? ≠ some '-'
  no_slashStar : c = '/' → rest.head? ≠ some '*'

/-- A lexeme may stand between two texts. -/
def Lexeme.MayStand (front rest : List Char) : Lexeme → Prop
  | plain c => IsPlainAt front c rest
  | quoted quote body =>
    (quote = '"' ∨ quote = '\'' ∧ ¬ EndsInMark front) ∧ IsDoubled quote body ∧
      rest.head? ≠ some quote
  | escape body => EndsInMark front ∧ IsEscaped body ∧ rest.head? ≠ some '\''
  | dollar tag body => ¬ EndsInName front ∧ IsTag tag ∧ EndsAtFirst (dollarMark tag) body
  | lineComment body ended => '\n' ∉ body ∧ (ended = false → rest = [])
  | blockComment body => EndsAtFirst ['*', '/'] body

/-- The region that a character opens. -/
def OpenRegion.IsOpenedBy (c : Char) : OpenRegion → Prop
  | quote mark => mark = c ∧ (c = '\'' ∨ c = '"')
  | dollar => c = '$'
  | comment => c = '/'

/-- A region begins between two texts, and no lexeme may stand there. -/
def LeavesOpen (front rest : List Char) (region : OpenRegion) : Prop :=
  (∃ c ∈ rest.head?, region.IsOpenedBy c) ∧
    ∀ (lexeme : Lexeme) (tail : List Char), rest = lexeme.text ++ tail →
      ¬ lexeme.MayStand front tail

variable {front rest following : List Char} {context : Context} {c : Char} {lexeme : Lexeme}
  {region other : OpenRegion}

theorem OpenRegion.IsOpenedBy.unique (h : region.IsOpenedBy c) (hother : other.IsOpenedBy c) :
    region = other := by
  cases region <;> cases other <;> simp_all [OpenRegion.IsOpenedBy]

/-- What opens a lexeme of a kind, in a context. -/
def Opening.Begins (context : Context) (c : Char) (rest : List Char) : Opening → Prop
  | escape => c = '\'' ∧ context = .escapeMark
  | quoted => c = '"' ∨ c = '\'' ∧ context ≠ .escapeMark
  | dollar tag => c = '$' ∧ context = .fresh ∧ tag? rest = some tag
  | lineComment => c = '-' ∧ rest.head? = some '-'
  | blockComment => c = '/' ∧ rest.head? = some '*'
  | plain => c ≠ '\'' ∧ c ≠ '"' ∧ (c = '$' → context = .fresh → tag? rest = none) ∧
      (c = '-' → rest.head? ≠ some '-') ∧ (c = '/' → rest.head? ≠ some '*')

theorem opening_begins (context : Context) (c : Char) (rest : List Char) :
    (opening context c rest).Begins context c rest := by
  unfold opening
  split_ifs with hescape hquote hdollar hline hblock
  · exact hescape
  · rcases hquote with rfl | rfl
    · exact .inr ⟨rfl, fun hmark => hescape ⟨rfl, hmark⟩⟩
    · exact .inl rfl
  · cases htag : tag? rest with
    | none =>
        obtain ⟨rfl, -⟩ := hdollar
        exact ⟨by decide, by decide, fun _ _ => htag, nofun, nofun⟩
    | some tag => exact ⟨hdollar.1, hdollar.2, htag⟩
  · exact hline
  · exact hblock
  · refine ⟨fun hc => hquote (.inl hc), fun hc => hquote (.inr hc), ?_, ?_, ?_⟩
    · exact fun hc hfresh => absurd ⟨hc, hfresh⟩ hdollar
    · exact fun hc hrest => hline ⟨hc, hrest⟩
    · exact fun hc hrest => hblock ⟨hc, hrest⟩

theorem opening_eq_iff {kind : Opening} :
    opening context c rest = kind ↔ kind.Begins context c rest := by
  constructor
  · rintro rfl
    exact opening_begins context c rest
  · intro h
    cases kind with
    | escape =>
        obtain ⟨rfl, hmark⟩ := h
        simp [opening, hmark]
    | quoted =>
        rcases h with rfl | ⟨rfl, hmark⟩
        · simp [opening]
        · simp [opening, hmark]
    | dollar tag =>
        obtain ⟨rfl, hfresh, htag⟩ := h
        simp [opening, hfresh, htag]
    | lineComment =>
        obtain ⟨rfl, hhyphen⟩ := h
        simp [opening, hhyphen]
    | blockComment =>
        obtain ⟨rfl, hstar⟩ := h
        simp [opening, hstar]
    | plain =>
        obtain ⟨hsingle, hdouble, htag, hline, hblock⟩ := h
        rw [opening, if_neg fun hc => hsingle hc.1, if_neg (not_or.mpr ⟨hsingle, hdouble⟩)]
        split_ifs with hdollar hhyphen hstar
        · rw [htag hdollar.1 hdollar.2]
        · exact absurd hhyphen.2 (hline hhyphen.1)
        · exact absurd hstar.2 (hblock hstar.1)
        · rfl

theorem noTag_iff (hfits : context.Fits front) :
    (context = .fresh → tag? rest = none) ↔
      (¬ EndsInName front → ∀ tag tail, IsTag tag → rest ≠ tag ++ '$' :: tail) := by
  rw [hfits.eq_fresh_iff]
  refine imp_congr_right fun _ => ?_
  rw [Option.eq_none_iff_forall_ne_some]
  constructor
  · intro hnone tag tail htag hrest
    exact hnone tag (tag?_eq_some_iff.mpr ⟨htag, tail, hrest⟩)
  · intro hnone tag htag
    obtain ⟨htag, tail, hrest⟩ := tag?_eq_some_iff.mp htag
    exact hnone tag tail htag hrest

/-- A character is read as plain where it may stand as such. -/
theorem opening_eq_plain_iff (hfits : context.Fits front) :
    opening context c rest = .plain ↔ IsPlainAt front c rest := by
  rw [opening_eq_iff, Opening.Begins, noTag_iff hfits]
  exact ⟨fun ⟨hsingle, hdouble, htag, hline, hblock⟩ => ⟨hsingle, hdouble, htag, hline, hblock⟩,
    fun h => ⟨h.1, h.2, h.3, h.4, h.5⟩⟩

theorem mayStand_of_readLexeme (hfits : context.Fits front)
    (h : readLexeme context c rest = .ok lexeme) :
    ∃ tail, c :: rest = lexeme.text ++ tail ∧ lexeme.MayStand front tail := by
  have hread := readLexeme_eq_ok h
  have hbegins := opening_begins context c rest
  cases hopen : opening context c rest with
  | escape =>
      rw [hopen] at hread hbegins
      obtain ⟨rfl, hmark⟩ := hbegins
      obtain ⟨body, hbody, rfl⟩ := Opening.close_eq_ok.mp hread
      obtain ⟨hescaped, tail, rfl, htail⟩ := escapeBody?_eq_some_iff.mp hbody
      exact ⟨tail, by simp [Lexeme.text], hfits.eq_escapeMark_iff.mp hmark, hescaped, htail⟩
  | quoted =>
      rw [hopen] at hread hbegins
      obtain ⟨body, hbody, rfl⟩ := Opening.close_eq_ok.mp hread
      obtain ⟨hdoubled, tail, rfl, htail⟩ := quotedBody?_eq_some_iff.mp hbody
      refine ⟨tail, by simp [Lexeme.text], ?_, hdoubled, htail⟩
      exact hbegins.imp_right fun hquote => ⟨hquote.1, mt hfits.eq_escapeMark_iff.mpr hquote.2⟩
  | dollar tag =>
      rw [hopen] at hread hbegins
      obtain ⟨rfl, hfresh, hfound⟩ := hbegins
      obtain ⟨htag, tail, rfl⟩ := tag?_eq_some_iff.mp hfound
      obtain ⟨body, hbody, rfl⟩ := Opening.close_eq_ok.mp hread
      rw [drop_tag] at hbody
      obtain ⟨hfirst, back, rfl⟩ := (before?_eq_some_iff (by simp [dollarMark])).mp hbody
      exact ⟨back, by simp [Lexeme.text, dollarMark], hfits.eq_fresh_iff.mp hfresh, htag, hfirst⟩
  | lineComment =>
      rw [hopen] at hbegins
      obtain ⟨rfl, hhyphen⟩ := hbegins
      obtain ⟨tail, rfl⟩ := List.head?_eq_some_iff.mp hhyphen
      rw [readLexeme_hyphens] at h
      cases hbody : before? ['\n'] tail with
      | none =>
          obtain rfl : lexeme = .lineComment tail false := by simpa [hbody] using h.symm
          exact ⟨[], by simp [Lexeme.text], before?_newline_eq_none_iff.mp hbody, fun _ => rfl⟩
      | some body =>
          obtain rfl : lexeme = .lineComment body true := by simpa [hbody] using h.symm
          obtain ⟨hfirst, back, rfl⟩ := (before?_eq_some_iff (by simp)).mp hbody
          exact ⟨back, by simp [Lexeme.text], endsAtFirst_newline_iff.mp hfirst, by simp⟩
  | blockComment =>
      rw [hopen] at hread hbegins
      obtain ⟨rfl, hstar⟩ := hbegins
      obtain ⟨tail, rfl⟩ := List.head?_eq_some_iff.mp hstar
      obtain ⟨body, hbody, rfl⟩ := Opening.close_eq_ok.mp hread
      obtain ⟨hfirst, back, rfl⟩ := (before?_eq_some_iff (by simp)).mp hbody
      exact ⟨back, by simp [Lexeme.text], hfirst⟩
  | plain =>
      rw [hopen] at hread
      obtain rfl : lexeme = .plain c := by simpa [Opening.read] using hread.symm
      exact ⟨rest, rfl, (opening_eq_plain_iff hfits).mp hopen⟩

/-- A lexeme that may stand at a place is read there. -/
theorem readLexeme_of_mayStand {tail : List Char} (hfits : context.Fits front)
    (htext : c :: rest = lexeme.text ++ tail) (h : lexeme.MayStand front tail) :
    readLexeme context c rest = .ok lexeme := by
  rw [readLexeme_eq_read]
  cases lexeme with
  | plain d =>
      obtain ⟨rfl, rfl⟩ := List.cons.inj htext
      rw [(opening_eq_plain_iff hfits).mpr h]
      rfl
  | quoted quote body =>
      obtain ⟨hquote, hdoubled, htail⟩ := h
      obtain ⟨rfl, hrest⟩ := List.cons.inj htext
      have hopen : opening context c rest = .quoted := opening_eq_iff.mpr <|
        hquote.imp_right fun hmark => ⟨hmark.1, mt hfits.eq_escapeMark_iff.mp hmark.2⟩
      rw [hopen]
      have hbody : rest = body ++ c :: tail := by simpa using hrest
      exact Opening.close_eq_ok.mpr
        ⟨body, quotedBody?_eq_some_iff.mpr ⟨hdoubled, tail, hbody, htail⟩, rfl⟩
  | escape body =>
      obtain ⟨hmark, hescaped, htail⟩ := h
      obtain ⟨rfl, hrest⟩ := List.cons.inj htext
      have hopen : opening context '\'' rest = .escape :=
        opening_eq_iff.mpr ⟨rfl, hfits.eq_escapeMark_iff.mpr hmark⟩
      rw [hopen]
      have hbody : rest = body ++ '\'' :: tail := by simpa using hrest
      exact Opening.close_eq_ok.mpr
        ⟨body, escapeBody?_eq_some_iff.mpr ⟨hescaped, tail, hbody, htail⟩, rfl⟩
  | dollar tag body =>
      obtain ⟨hname, htag, hfirst⟩ := h
      obtain ⟨rfl, hrest⟩ := List.cons.inj htext
      obtain rfl : rest = tag ++ '$' :: (body ++ dollarMark tag ++ tail) := by
        simpa using hrest
      have hopen : opening context '$' (tag ++ '$' :: (body ++ dollarMark tag ++ tail)) =
          .dollar tag :=
        opening_eq_iff.mpr
          ⟨rfl, hfits.eq_fresh_iff.mpr hname, tag?_eq_some_iff.mpr ⟨htag, _, rfl⟩⟩
      rw [hopen]
      refine Opening.close_eq_ok.mpr ⟨body, ?_, rfl⟩
      rw [drop_tag]
      exact hfirst.before?_eq (by simp [dollarMark]) tail
  | lineComment body ended =>
      obtain ⟨hbody, hended⟩ := h
      obtain ⟨rfl, hrest⟩ := List.cons.inj htext
      obtain rfl : rest = '-' :: (body ++ (if ended then ['\n'] else []) ++ tail) := by
        simpa using hrest
      rw [← readLexeme_eq_read, readLexeme_hyphens]
      cases ended with
      | false =>
          obtain rfl := hended rfl
          have hnone : before? ['\n'] body = none := before?_newline_eq_none_iff.mpr hbody
          simp [hnone]
      | true =>
          have hsome : before? ['\n'] (body ++ ['\n'] ++ tail) = some body :=
            (endsAtFirst_newline_iff.mpr hbody).before?_eq (by simp) tail
          simp only [if_true, hsome]
  | blockComment body =>
      obtain ⟨rfl, hrest⟩ := List.cons.inj htext
      obtain rfl : rest = '*' :: (body ++ ['*', '/'] ++ tail) := by
        simpa using hrest
      have hopen : opening context '/' ('*' :: (body ++ ['*', '/'] ++ tail)) = .blockComment :=
        opening_eq_iff.mpr ⟨rfl, rfl⟩
      rw [hopen]
      refine Opening.close_eq_ok.mpr ⟨body, ?_, rfl⟩
      exact EndsAtFirst.before?_eq (by simp) h tail

theorem isOpenedBy_of_readLexeme (h : readLexeme context c rest = .error region) :
    region.IsOpenedBy c := by
  have hbegins := opening_begins context c rest
  rw [readLexeme_eq_read] at h
  cases hopen : opening context c rest <;> rw [hopen] at h hbegins
  case escape =>
      obtain ⟨-, rfl⟩ := Opening.close_eq_error.mp h
      exact ⟨rfl, .inl hbegins.1⟩
  case quoted =>
      obtain ⟨-, rfl⟩ := Opening.close_eq_error.mp h
      exact ⟨rfl, hbegins.symm.imp_left And.left⟩
  case dollar tag =>
      obtain ⟨-, rfl⟩ := Opening.close_eq_error.mp h
      exact hbegins.1
  case lineComment =>
      simp only [Opening.read] at h
      cases hbody : before? ['\n'] rest.tail <;> simp [hbody] at h
  case blockComment =>
      obtain ⟨-, rfl⟩ := Opening.close_eq_error.mp h
      exact hbegins.1
  case plain => simp [Opening.read] at h

/-- **Reading finds a region open where the grammar allows no lexeme.** -/
theorem readLexeme_eq_error_iff (hfits : context.Fits front) :
    readLexeme context c rest = .error region ↔ LeavesOpen front (c :: rest) region := by
  constructor
  · intro h
    refine ⟨⟨c, rfl, isOpenedBy_of_readLexeme h⟩, fun lexeme tail htext hstand => ?_⟩
    rw [readLexeme_of_mayStand hfits htext hstand] at h
    cases h
  · rintro ⟨⟨first, hfirst, hopened⟩, hnone⟩
    obtain rfl : c = first := Option.some.inj hfirst
    cases hread : readLexeme context c rest with
    | ok lexeme =>
        obtain ⟨tail, htext, hstand⟩ := mayStand_of_readLexeme hfits hread
        exact absurd hstand (hnone lexeme tail htext)
    | error other =>
        rw [(isOpenedBy_of_readLexeme hread).unique hopened]

/-- What a lexeme leaves behind fits the text up to its end, unless the text ends there. -/
theorem Context.Fits.after (hfits : context.Fits front) (h : lexeme.MayStand front rest) :
    (context.after lexeme).Fits (front ++ lexeme.text) ∨ rest = [] := by
  cases lexeme with
  | plain c => exact .inl (hfits.afterChar c)
  | quoted quote body =>
      have hother : Text.isIdentifierChar quote = false := by
        rcases h.1 with rfl | ⟨rfl, -⟩ <;> decide
      refine .inl ?_
      rw [Lexeme.text, ← List.append_assoc]
      exact Context.fits_fresh_concat hother _
  | escape body =>
      refine .inl ?_
      rw [Lexeme.text, ← List.append_assoc]
      exact Context.fits_fresh_concat (by decide) _
  | dollar tag body =>
      have htext : front ++ (Lexeme.dollar tag body).text =
          front ++ dollarMark tag ++ body ++ '$' :: tag ++ ['$'] := by
        simp [Lexeme.text, dollarMark]
      refine .inl ?_
      rw [htext, Context.after, Context.Fits, endsInName_concat, endsInMark_concat]
      exact ⟨by decide, fun hletter => absurd hletter.1 (by decide)⟩
  | lineComment body ended =>
      cases ended with
      | false => exact .inr (h.2 rfl)
      | true =>
          have htext : front ++ (Lexeme.lineComment body true).text =
              front ++ '-' :: '-' :: body ++ ['\n'] := by
            simp [Lexeme.text]
          refine .inl ?_
          rw [htext]
          exact Context.fits_fresh_concat (by decide) _
  | blockComment body =>
      have htext : front ++ (Lexeme.blockComment body).text =
          front ++ '/' :: '*' :: body ++ ['*'] ++ ['/'] := by
        simp [Lexeme.text]
      refine .inl ?_
      rw [htext]
      exact Context.fits_fresh_concat (by decide) _

end Lexemes

section Texts

/-- The text that lexemes spell. -/
def textOf (lexemes : List Lexeme) : List Char :=
  lexemes.flatMap Lexeme.text

/-- Lexemes may stand one after the other between two texts. -/
inductive MayFollow : List Char → List Lexeme → List Char → Prop
  | nil (front rest : List Char) : MayFollow front [] rest
  | cons {front rest : List Char} {lexeme : Lexeme} {lexemes : List Lexeme}
      (hfirst : lexeme.MayStand front (textOf lexemes ++ rest))
      (hothers : MayFollow (front ++ lexeme.text) lexemes rest) :
      MayFollow front (lexeme :: lexemes) rest

/-- The lexemes of a whole text, all of whose regions are closed. -/
structure IsDecomposition (cs : List Char) (lexemes : List Lexeme) : Prop where
  text_eq : textOf lexemes = cs
  mayFollow : MayFollow [] lexemes []

variable {front rest cs : List Char} {context : Context} {lexemes others : List Lexeme}

theorem textOf_cons (lexeme : Lexeme) (lexemes : List Lexeme) :
    textOf (lexeme :: lexemes) = lexeme.text ++ textOf lexemes :=
  List.flatMap_cons

/-- Every lexeme has a first character. -/
theorem Lexeme.exists_text_eq (lexeme : Lexeme) : ∃ c tail, lexeme.text = c :: tail :=
  List.exists_cons_of_length_pos lexeme.length_pos

/-- A context is right for a place unless nothing stands behind it. -/
def Context.Suits (front rest : List Char) (context : Context) : Prop :=
  context.Fits front ∨ rest = []

/-- **Lexemes that may stand at the front of a text are read there.** What stands behind them is
read in a context that fits them. -/
theorem MayFollow.inContext_eq (h : MayFollow front lexemes rest)
    (hsuits : context.Suits front (textOf lexemes ++ rest)) :
    ∃ later : Context, later.Suits (front ++ textOf lexemes) rest ∧
      Scan.inContext context (textOf lexemes ++ rest) =
        Scan.append ⟨lexemes, none⟩ (Scan.inContext later rest) := by
  induction h generalizing context with
  | nil front rest => exact ⟨context, by simpa [textOf] using hsuits, rfl⟩
  | @cons front rest lexeme lexemes hfirst hothers ih =>
      obtain ⟨c, tail, htext⟩ := lexeme.exists_text_eq
      have hcs : textOf (lexeme :: lexemes) ++ rest = c :: (tail ++ (textOf lexemes ++ rest)) := by
        rw [textOf_cons, htext]
        simp
      have hfits : context.Fits front := by
        refine hsuits.resolve_right fun hempty => ?_
        rw [hcs] at hempty
        cases hempty
      have hread : readLexeme context c (tail ++ (textOf lexemes ++ rest)) = .ok lexeme := by
        refine readLexeme_of_mayStand hfits ?_ hfirst
        rw [htext]
        rfl
      have hdrop : (c :: (tail ++ (textOf lexemes ++ rest))).drop lexeme.length =
          textOf lexemes ++ rest := by
        rw [Lexeme.length, htext]
        exact List.drop_left
      obtain ⟨later, hlater, hscan⟩ := ih (hfits.after hfirst)
      refine ⟨later, ?_, ?_⟩
      · rw [textOf_cons, ← List.append_assoc]
        exact hlater
      · rw [hcs, Scan.inContext_cons hread, hdrop, hscan]
        rfl

/-- How a text ends behind its lexemes. -/
def EndsAs (front rest : List Char) : Option OpenRegion → Prop
  | none => rest = []
  | some region => LeavesOpen front rest region

theorem exists_mayFollow (hsuits : context.Suits front cs) :
    ∃ rest, cs = textOf (Scan.inContext context cs).lexemes ++ rest ∧
      MayFollow front (Scan.inContext context cs).lexemes rest ∧
      EndsAs (front ++ textOf (Scan.inContext context cs).lexemes) rest
        (Scan.inContext context cs).openRegion := by
  induction context, cs using Scan.inContext.induct generalizing front with
  | case1 context =>
      rw [Scan.inContext_nil]
      exact ⟨[], rfl, .nil front [], rfl⟩
  | case2 context c rest region hread =>
      have hfits : context.Fits front := hsuits.resolve_right (List.cons_ne_nil _ _)
      rw [Scan.inContext_cons_error hread]
      refine ⟨c :: rest, rfl, .nil front _, ?_⟩
      rw [textOf, List.flatMap_nil, List.append_nil]
      exact (readLexeme_eq_error_iff hfits).mp hread
  | case3 context c rest lexeme hread ih =>
      have hfits : context.Fits front := hsuits.resolve_right (List.cons_ne_nil _ _)
      obtain ⟨tail, htext, hstand⟩ := mayStand_of_readLexeme hfits hread
      have hdrop : (c :: rest).drop lexeme.length = tail := by
        rw [htext]
        exact List.drop_left
      rw [hdrop] at ih
      obtain ⟨back, hback, hfollow, hend⟩ := ih (hfits.after hstand)
      rw [Scan.inContext_cons hread, hdrop]
      refine ⟨back, ?_, .cons (hback ▸ hstand) hfollow, ?_⟩
      · rw [textOf_cons, List.append_assoc, ← hback, htext]
      · rw [textOf_cons, ← List.append_assoc]
        exact hend

/-- **The lexemes of a text and its open region are those of the grammar.** -/
theorem ofText_eq_iff {region : Option OpenRegion} : Scan.ofText cs = ⟨lexemes, region⟩ ↔
    ∃ rest, cs = textOf lexemes ++ rest ∧ MayFollow [] lexemes rest ∧
      EndsAs (textOf lexemes) rest region := by
  constructor
  · intro hscan
    have h := exists_mayFollow (.inl Context.fits_nil : Context.fresh.Suits [] cs)
    rw [show Scan.inContext .fresh cs = _ from hscan] at h
    exact h
  · rintro ⟨rest, rfl, hfollow, hend⟩
    obtain ⟨later, hlater, hscan⟩ := hfollow.inContext_eq (.inl Context.fits_nil)
    rw [Scan.ofText, hscan]
    cases region with
    | none =>
        obtain rfl : rest = [] := hend
        rw [Scan.inContext_nil, Scan.append, List.append_nil]
    | some region =>
        obtain ⟨⟨c, hc, hopened⟩, hnone⟩ := hend
        obtain ⟨tail, rfl⟩ := List.head?_eq_some_iff.mp hc
        have hfits := hlater.resolve_right (List.cons_ne_nil _ _)
        have hread := (readLexeme_eq_error_iff hfits).mpr ⟨⟨c, hc, hopened⟩, hnone⟩
        rw [Scan.inContext_cons_error hread, Scan.append, List.append_nil]

theorem isDecomposition_iff : IsDecomposition cs lexemes ↔ Scan.ofText cs = ⟨lexemes, none⟩ := by
  rw [ofText_eq_iff]
  constructor
  · rintro ⟨rfl, hfollow⟩
    exact ⟨[], (List.append_nil _).symm, hfollow, rfl⟩
  · rintro ⟨rest, rfl, hfollow, rfl⟩
    exact ⟨(List.append_nil _).symm, hfollow⟩

/-- **A text has at most one decomposition.** -/
theorem IsDecomposition.unique (h : IsDecomposition cs lexemes)
    (hother : IsDecomposition cs others) : lexemes = others := by
  have hsame := (isDecomposition_iff.mp h).symm.trans (isDecomposition_iff.mp hother)
  exact (Scan.mk.inj hsame).1

end Texts

end Sql
end VectorTiles
