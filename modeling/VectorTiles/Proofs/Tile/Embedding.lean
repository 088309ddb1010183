import VectorTiles.Proofs.Sql.Percent
import VectorTiles.Proofs.Sql.Trail
import VectorTiles.Tile.Fragment

/-!
# Embedded texts

A source query is checked as it was declared, and embedded without the blanks around it, with
percent signs doubled and perhaps with a line end behind it. A name is embedded as a literal.

**Results.**

* `embeddedSource_eq`: percent signs are doubled last.
* `isNested_embeddedSource`: an accepted source is embedded with complete regions and with
  parentheses that match among themselves.
* `ofText_quotedName`: an embedded name is one quoted text.
-/

namespace VectorTiles
namespace Tile

open Sql

section Hyphens

theorem holdsHyphens_eq_isSome (cs : List Char) :
    holdsHyphens cs = (before? ['-', '-'] cs).isSome := by
  fun_induction holdsHyphens cs with
  | case1 rest => simp [before?]
  | case2 c rest hne ih =>
      have hp : ¬ ['-', '-'].isPrefixOf (c :: rest) = true := by
        rw [List.isPrefixOf_iff_prefix]
        rintro ⟨tail, htail⟩
        simp at htail
        exact hne tail htail.1.symm htail.2.symm
      simp [before?, hp, ih]
  | case3 => rfl

theorem holdsHyphens_append (front body : List Char) :
    holdsHyphens (front ++ '-' :: '-' :: body) = true := by
  rw [holdsHyphens_eq_isSome, Option.isSome_iff_ne_none, ne_eq, before?_eq_none_iff (by simp),
    not_not]
  exact ⟨front, body, by simp⟩

/-- Whether a comment may have begun does not depend on percent signs. -/
theorem holdsHyphens_escapePercent (cs : List Char) :
    holdsHyphens (escapePercent cs) = holdsHyphens cs := by
  rw [holdsHyphens_eq_isSome, holdsHyphens_eq_isSome, escapePercent,
    before?_doubled (by simp) (by decide), Option.isSome_map]

/-- Percent signs are doubled in the source and in nothing else. -/
theorem embeddedSource_eq (sql : List Char) :
    embeddedSource sql = escapePercent (endingComment (Text.strip sql)) := by
  rw [embeddedSource, endingComment, endingComment, holdsHyphens_escapePercent]
  split_ifs
  · simp [escapePercent, doubled_cons_of_ne (show '\n' ≠ '%' by decide)]
  · rfl

/-- A text whose regions are closed is complete once its last comment is ended. -/
theorem endingComment_isComplete {cs : List Char} (h : (Scan.ofText cs).openRegion = none) :
    (Scan.ofText (endingComment cs)).IsComplete := by
  rw [endingComment]
  split_ifs with hhyphens
  · exact Scan.isComplete_append_newline h
  · refine ⟨h, fun lexeme hmem => ?_⟩
    by_contra hend
    obtain ⟨front, body, rfl, -⟩ :=
      Scan.eq_append_of_not_isEnded hmem (Bool.eq_false_iff.mpr hend)
    exact hhyphens (holdsHyphens_append front body)

end Hyphens

section Embedded

/-- An accepted source is nested, with every comment of it ended, before percent signs are doubled. -/
theorem isNested_endingComment {sql : List Char} (h : checkSource sql = .ok ()) :
    IsNested (endingComment (Text.strip sql)) ∧
      (Scan.ofText (endingComment (Text.strip sql))).IsComplete := by
  have hstrip : IsNested (Text.strip sql) :=
    (isNested_strip_iff sql).mpr (isNested_of_checkSource h)
  refine ⟨?_, endingComment_isComplete hstrip.1⟩
  rw [endingComment]
  split_ifs
  · have hblank : ∀ c ∈ ['\n'], Text.isBlank c = true :=
      List.forall_mem_singleton.mpr (by decide)
    exact (isNested_append_iff hblank).mpr hstrip
  · exact hstrip

/-- **An accepted source stays nested where it is embedded.** -/
theorem isNested_embeddedSource {sql : List Char} (h : checkSource sql = .ok ()) :
    IsNested (embeddedSource sql) ∧ (Scan.ofText (embeddedSource sql)).IsComplete := by
  obtain ⟨hending, hcomplete⟩ := isNested_endingComment h
  rw [embeddedSource_eq]
  exact ⟨(isNested_escapePercent_iff _).mpr hending, Scan.isComplete_escapePercent hcomplete⟩

/-- A quote behind a text whose quotes are doubled closes the literal. -/
theorem quotedBody?_doubled_self (quote : Char) (cs : List Char) :
    quotedBody? quote (doubled quote cs ++ [quote]) = some (doubled quote cs) := by
  induction cs with
  | nil => simp [quotedBody?]
  | cons c cs ih =>
      by_cases hc : c = quote
      · subst hc
        rw [doubled_cons_self, List.cons_append, List.cons_append, quotedBody?_cons_cons, ih]
        rfl
      · rw [doubled_cons_of_ne hc, List.cons_append, quotedBody?_cons_of_ne hc, ih]
        rfl

theorem ofText_literal (cs : List Char) :
    Scan.ofText (literal cs) = ⟨[.quoted '\'' (doubled '\'' cs)], none⟩ := by
  have hread : readLexeme .fresh '\'' (doubled '\'' cs ++ ['\'']) =
      .ok (.quoted '\'' (doubled '\'' cs)) := by
    simp [readLexeme, quotedBody?_doubled_self]
  rw [Scan.ofText, literal, List.cons_append, Scan.inContext_cons hread,
    List.drop_of_length_le (by simp [Lexeme.length, Lexeme.text]), Scan.inContext_nil]

/-- An embedded name is one quoted text. -/
theorem ofText_quotedName (cs : List Char) :
    Scan.ofText (escapePercent (literal cs)) =
      ⟨[.quoted '\'' (escapePercent (doubled '\'' cs))], none⟩ := by
  rw [Scan.ofText, Scan.inContext_escapePercent, ← Scan.ofText, ofText_literal]
  rfl

end Embedded

end Tile
end VectorTiles
