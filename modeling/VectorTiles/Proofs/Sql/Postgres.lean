import VectorTiles.Proofs.Sql.Seam

/-!
# The reading of the server

How PostgreSQL reads a text: which of its characters are plain, and which belong to regions.

**Rules.** They are those by which source queries are checked, but for these points.

* A name consists of letters, digits, underscores, dollar signs and any characters outside ASCII. It
  begins with neither a digit nor a dollar sign, and it does not go on behind a region.
* The tag of a dollar-quoted body may have any characters outside ASCII.
* A line comment ends at a line feed or at a carriage return, whichever comes first.
* A block comment may have others inside it, and ends behind all of them.

Texts that go on in the next line are read as two.

**Results.**

* `ofText`: the lexemes of a text, and the region that is still open at its end.
* `nestedBody?_append`, `lineBody_append`: bodies of comments that have come to their end.
* `IsClosed`: a text that leaves no region open.
* `inContext_append_bracket`: what stands before a plain parenthesis and behind it is read separately.
-/

namespace VectorTiles
namespace Sql
namespace Postgres

section Names

/-- A character that may begin a name. -/
def isNameStart (c : Char) : Bool :=
  isTagStart c || 0x80 ≤ c.toNat

/-- A character that may continue a tag. -/
def isTagChar (c : Char) : Bool :=
  isNameStart c || c.isDigit

def isNameChar (c : Char) : Bool :=
  isTagChar c || c == '$'

/-- The tag after a dollar sign, if a mark begins there. -/
def tag? (cs : List Char) : Option (List Char) :=
  let tag := cs.takeWhile isTagChar
  if (cs.drop tag.length).head? = some '$' ∧ tag.head?.all isNameStart then some tag else none

/-- The context after a plain character. -/
def afterChar (context : Context) (c : Char) : Context :=
  if context = .fresh then
    if !isNameStart c then .fresh
    else if c = 'e' ∨ c = 'E' then .escapeMark
    else .word
  else if isNameChar c then .word
  else .fresh

def after (context : Context) : Lexeme → Context
  | .plain c => afterChar context c
  | _ => .fresh

end Names

section Comments

/-- The text of a line comment, and whether a line feed ends it. A carriage return directly before
the line feed belongs to the comment. -/
def lineBody : List Char → List Char × Bool
  | [] => ([], false)
  | c :: rest =>
    if c = '\n' then ([], true)
    else if c = '\r' then if rest.head? = some '\n' then ([c], true) else ([], false)
    else (c :: (lineBody rest).1, (lineBody rest).2)

/-- The text up to the end of a block comment in which `depth` others are open. -/
def nestedBody? : Nat → List Char → Option (List Char)
  | _, [] | _, [_] => none
  | depth, c :: d :: rest =>
    if c = '*' ∧ d = '/' then
      if depth = 0 then some []
      else (nestedBody? (depth - 1) rest).map fun body => c :: d :: body
    else if c = '/' ∧ d = '*' then
      (nestedBody? (depth + 1) rest).map fun body => c :: d :: body
    else (nestedBody? depth (d :: rest)).map (c :: ·)

variable {cs more body : List Char} {depth : Nat} {ended : Bool}

theorem lineBody_eq (h : lineBody cs = (body, ended)) :
    ∃ tail, cs = body ++ (if ended then ['\n'] else []) ++ tail := by
  fun_induction lineBody cs generalizing body with
  | case1 =>
      cases h
      exact ⟨[], rfl⟩
  | case2 rest =>
      cases h
      exact ⟨rest, rfl⟩
  | case3 rest hfeed _ =>
      cases h
      obtain ⟨tail, rfl⟩ := List.head?_eq_some_iff.mp hfeed
      exact ⟨tail, rfl⟩
  | case4 rest _ _ =>
      cases h
      exact ⟨'\r' :: rest, rfl⟩
  | case5 c rest _ _ ih =>
      obtain ⟨rfl, rfl⟩ := Prod.mk.inj h
      obtain ⟨tail, htail⟩ := ih rfl
      exact ⟨tail, congrArg (c :: ·) htail⟩

/-- A comment that ends before the text does stays the same when the text goes on, but for a line feed
that joins a carriage return. -/
theorem lineBody_append (h : lineBody cs = (body, ended)) (hend : ended = true ∨ body ≠ cs)
    {d : Char} (hd : d ≠ '\n') (more : List Char) :
    lineBody (cs ++ d :: more) = (body, ended) := by
  fun_induction lineBody cs generalizing body with
  | case1 =>
      cases h
      rcases hend with hfalse | hne
      · cases hfalse
      · exact absurd rfl hne
  | case2 rest =>
      cases h
      rfl
  | case3 rest hfeed _ =>
      cases h
      obtain ⟨tail, rfl⟩ := List.head?_eq_some_iff.mp hfeed
      rfl
  | case4 rest hfeed _ =>
      cases h
      rw [List.cons_append, lineBody, if_neg (by decide), if_pos rfl,
        if_neg (mt (head?_append_cons hd rest more).mp hfeed)]
  | case5 c rest hfeed hreturn ih =>
      obtain ⟨rfl, hended⟩ := Prod.mk.inj h
      have hinside : ended = true ∨ (lineBody rest).1 ≠ rest :=
        hend.imp_right fun hne hsame => hne (congrArg (c :: ·) hsame)
      have hbehind := ih (Prod.ext rfl hended) hinside
      rw [List.cons_append, lineBody, if_neg hfeed, if_neg hreturn, hbehind]

theorem nestedBody?_eq_some (h : nestedBody? depth cs = some body) :
    ∃ tail, cs = body ++ '*' :: '/' :: tail := by
  fun_induction nestedBody? depth cs generalizing body with
  | case1 => cases h
  | case2 => cases h
  | case3 c d rest hmark =>
      cases h
      obtain ⟨rfl, rfl⟩ := hmark
      exact ⟨rest, rfl⟩
  | case4 depth c d rest hmark _ ih =>
      obtain ⟨inner, hinner, rfl⟩ := Option.map_eq_some_iff.mp h
      obtain ⟨tail, rfl⟩ := ih hinner
      exact ⟨tail, rfl⟩
  | case5 depth c d rest _ _ ih =>
      obtain ⟨inner, hinner, rfl⟩ := Option.map_eq_some_iff.mp h
      obtain ⟨tail, rfl⟩ := ih hinner
      exact ⟨tail, rfl⟩
  | case6 depth c d rest _ _ ih =>
      obtain ⟨inner, hinner, rfl⟩ := Option.map_eq_some_iff.mp h
      obtain ⟨tail, htail⟩ := ih hinner
      exact ⟨tail, congrArg (c :: ·) htail⟩

theorem nestedBody?_append (h : nestedBody? depth cs = some body) (more : List Char) :
    nestedBody? depth (cs ++ more) = some body := by
  fun_induction nestedBody? depth cs generalizing body with
  | case1 => cases h
  | case2 => cases h
  | case3 c d rest hmark =>
      rw [List.cons_append, List.cons_append, nestedBody?, if_pos hmark]
      exact h
  | case4 depth c d rest hmark hdepth ih =>
      obtain ⟨inner, hinner, rfl⟩ := Option.map_eq_some_iff.mp h
      rw [List.cons_append, List.cons_append, nestedBody?, if_pos hmark, if_neg hdepth, ih hinner]
      rfl
  | case5 depth c d rest hclose hopen ih =>
      obtain ⟨inner, hinner, rfl⟩ := Option.map_eq_some_iff.mp h
      rw [List.cons_append, List.cons_append, nestedBody?, if_neg hclose, if_pos hopen, ih hinner]
      rfl
  | case6 depth c d rest hclose hopen ih =>
      obtain ⟨inner, hinner, rfl⟩ := Option.map_eq_some_iff.mp h
      rw [List.cons_append, List.cons_append, nestedBody?, if_neg hclose, if_neg hopen,
        ← List.cons_append, ih hinner]
      rfl

end Comments

section Reading

/-- The kind of the lexeme that begins with the character `c` and goes on in `rest`. -/
def opening (context : Context) (c : Char) (rest : List Char) : Opening :=
  if c = '\'' ∧ context = .escapeMark then .escape
  else if c = '\'' ∨ c = '"' then .quoted
  else if c = '$' ∧ context = .fresh then
    match tag? rest with
    | some tag => .dollar tag
    | none => .plain
  else if c = '-' ∧ rest.head? = some '-' then .lineComment
  else if c = '/' ∧ rest.head? = some '*' then .blockComment
  else .plain

/-- The lexeme that begins with the character `c` and goes on in `rest`. -/
def readLexeme (context : Context) (c : Char) (rest : List Char) : Except OpenRegion Lexeme :=
  match opening context c rest with
  | .lineComment => .ok (.lineComment (lineBody rest.tail).1 (lineBody rest.tail).2)
  | .blockComment => Opening.close .comment .blockComment (nestedBody? 0 rest.tail)
  | kind => kind.read c rest

/-- The lexemes of a text that begins in the given context. -/
def inContext (context : Context) (cs : List Char) : Scan :=
  match cs with
  | [] => ⟨[], none⟩
  | c :: rest =>
    match readLexeme context c rest with
    | .error region => ⟨[], some region⟩
    | .ok lexeme =>
      let scan := inContext (after context lexeme) ((c :: rest).drop lexeme.length)
      ⟨lexeme :: scan.lexemes, scan.openRegion⟩
termination_by cs.length
decreasing_by
  have := lexeme.length_pos
  simp only [List.length_drop, List.length_cons]
  omega

/-- The lexemes of a whole text. -/
def ofText (cs : List Char) : Scan :=
  inContext .fresh cs

/-- No region is open at the end of a text. A line comment without a line feed is open only if nothing
stands behind it; otherwise a carriage return ends it. -/
structure IsClosed (scan : Scan) : Prop where
  openRegion_eq : scan.openRegion = none
  isEnded : ∀ {lexeme}, scan.lexemes.getLast? = some lexeme → lexeme.isEnded = true

theorem IsClosed.of_isComplete {scan : Scan} (h : scan.IsComplete) : IsClosed scan where
  openRegion_eq := h.1
  isEnded hlast := h.2 _ (List.mem_of_getLast? hlast)

end Reading

section Seams

variable {context : Context} {c d : Char} {cs rest : List Char} {lexeme : Lexeme}

theorem tag?_eq (cs : List Char) :
    tag? cs =
      if (cs.dropWhile isTagChar).head? = some '$' ∧ (cs.takeWhile isTagChar).head?.all isNameStart
      then some (cs.takeWhile isTagChar) else none := by
  simp only [tag?, drop_length_takeWhile]

theorem tag?_eq_some {tag : List Char} (h : tag? cs = some tag) :
    ∃ tail, cs = tag ++ '$' :: tail := by
  rw [tag?_eq] at h
  split_ifs at h with hmark
  obtain rfl : cs.takeWhile isTagChar = tag := Option.some.inj h
  obtain ⟨tail, htail⟩ := List.head?_eq_some_iff.mp hmark.1
  exact ⟨tail, by rw [← htail, List.takeWhile_append_dropWhile]⟩

/-- A parenthesis, which is plain wherever it stands outside a region. -/
def IsBracket (d : Char) : Prop :=
  d = '(' ∨ d = ')'

theorem IsBracket.isInert (h : IsBracket d) : isInert d = true := by
  rcases h with rfl | rfl <;> decide

theorem IsBracket.isTagChar_eq_false (h : IsBracket d) : isTagChar d = false := by
  rcases h with rfl | rfl <;> decide

theorem IsBracket.ne_dollar (h : IsBracket d) : d ≠ '$' := by
  rcases h with rfl | rfl <;> decide

theorem IsBracket.ne_feed (h : IsBracket d) : d ≠ '\n' := by
  rcases h with rfl | rfl <;> decide

theorem IsBracket.afterChar (h : IsBracket d) (context : Context) :
    Postgres.afterChar context d = .fresh := by
  rcases h with rfl | rfl <;> cases context <;> decide

theorem tag?_append (hd : IsBracket d) (cs more : List Char) : tag? (cs ++ d :: more) = tag? cs := by
  rw [tag?_eq, tag?_eq, takeWhile_append_cons hd.isTagChar_eq_false]
  simp only [head?_dropWhile_append_cons hd.isTagChar_eq_false hd.ne_dollar]

theorem opening_fits (context : Context) (c : Char) (rest : List Char) :
    (opening context c rest).Fits c rest := by
  unfold opening
  split_ifs with h1 h2 h3 h4 h5
  · exact h1.1
  · exact h2
  · cases htag : tag? rest with
    | none => trivial
    | some tag => exact ⟨h3.1, tag?_eq_some htag⟩
  · exact ⟨h4.1, List.head?_eq_some_iff.mp h4.2⟩
  · exact ⟨h5.1, List.head?_eq_some_iff.mp h5.2⟩
  · trivial

theorem opening_append (context : Context) (c : Char) (hd : IsBracket d) (rest more : List Char) :
    opening context c (rest ++ d :: more) = opening context c rest := by
  obtain ⟨_, _, _, hminus, _, hstar⟩ := isInert_iff.mp hd.isInert
  simp only [opening, head?_append_cons hminus, head?_append_cons hstar, tag?_append hd]

theorem text_prefix_of_readLexeme (h : readLexeme context c rest = .ok lexeme) :
    lexeme.text <+: c :: rest := by
  have hfits := opening_fits context c rest
  rw [readLexeme] at h
  cases hopen : opening context c rest with
  | lineComment =>
      rw [hopen] at h hfits
      obtain ⟨rfl, tail, rfl⟩ := hfits
      obtain rfl := Except.ok.inj h
      obtain ⟨back, hback⟩ := lineBody_eq (show lineBody tail = (_, _) from rfl)
      exact ⟨back, congrArg ('-' :: '-' :: ·) hback.symm⟩
  | blockComment =>
      rw [hopen] at h hfits
      obtain ⟨rfl, tail, rfl⟩ := hfits
      obtain ⟨body, hbody, rfl⟩ := Opening.close_eq_ok.mp h
      obtain ⟨back, rfl⟩ := nestedBody?_eq_some hbody
      exact ⟨back, by simp [Lexeme.text]⟩
  | _ =>
      rw [hopen] at h hfits
      exact Opening.text_prefix_of_read hfits h

/-- A lexeme that ends before the text does, or with a mark of its own, stays the same when a
parenthesis follows the text. -/
theorem readLexeme_append (h : readLexeme context c rest = .ok lexeme)
    (hend : lexeme.isEnded = true ∨ (c :: rest).drop lexeme.length ≠ []) (hd : IsBracket d)
    (more : List Char) : readLexeme context c (rest ++ d :: more) = .ok lexeme := by
  have hfits := opening_fits context c rest
  rw [readLexeme] at h ⊢
  rw [opening_append context c hd]
  cases hopen : opening context c rest with
  | lineComment =>
      rw [hopen] at h hfits
      obtain ⟨rfl, tail, rfl⟩ := hfits
      obtain rfl := Except.ok.inj h
      have hbefore : (lineBody tail).2 = true ∨ (lineBody tail).1 ≠ tail := by
        refine hend.imp_right fun hdrop hsame => hdrop ?_
        simp [Lexeme.length, Lexeme.text, hsame]
      have hbody : lineBody (tail ++ d :: more) = lineBody tail :=
        lineBody_append rfl hbefore hd.ne_feed more
      simp only [List.cons_append, List.tail_cons, hbody]
  | blockComment =>
      rw [hopen] at h hfits
      obtain ⟨rfl, tail, rfl⟩ := hfits
      obtain ⟨body, hbody, rfl⟩ := Opening.close_eq_ok.mp h
      exact Opening.close_eq_ok.mpr ⟨body, nestedBody?_append hbody _, rfl⟩
  | _ =>
      rw [hopen] at h hfits
      exact Opening.read_append hfits h (Opening.isEnded_of_read h (by simp)) hd.isInert more

theorem inContext_nil (context : Context) : inContext context [] = ⟨[], none⟩ := by
  rw [inContext]

theorem inContext_cons (h : readLexeme context c rest = .ok lexeme) :
    inContext context (c :: rest) =
      ⟨lexeme :: (inContext (after context lexeme) ((c :: rest).drop lexeme.length)).lexemes,
        (inContext (after context lexeme) ((c :: rest).drop lexeme.length)).openRegion⟩ := by
  rw [inContext, h]

theorem inContext_cons_error {region : OpenRegion} (h : readLexeme context c rest = .error region) :
    inContext context (c :: rest) = ⟨[], some region⟩ := by
  rw [inContext, h]

end Seams

end Postgres
end Sql
end VectorTiles
