import VectorTiles.Proofs.Sql.Grammar
import VectorTiles.Proofs.Sql.Interpolation

/-!
# Reading literals back

Two kinds of characters are written twice in the literal of a text. Two readers undo this in the other
order: the driver reads the percent signs, and then the server reads the quotes.

**Rules.** A literal begins with a quote and ends with the first quote that is not written twice. A
backslash in it stands for itself.

**Results.**

* `readLiteral?`: the text that a literal stands for, and what stands behind it.
* `quoteEnd?`: where the text that is quoted from the beginning on ends.
* `isReadBack_quoteLiteral?`: both readers give a text back, and find the end of its literal.
-/

namespace VectorTiles
namespace Sql

section Readers

/-- The text behind an opening quote, and what stands behind the closing one. -/
def readQuoted? : List Char → Option (List Char × List Char)
  | [] => none
  | '\'' :: '\'' :: rest => (readQuoted? rest).map fun (text, rest) => ('\'' :: text, rest)
  | '\'' :: rest => some ([], rest)
  | c :: rest => (readQuoted? rest).map fun (text, rest) => (c :: text, rest)

/-- The text of the literal at the beginning, and what stands behind the literal. -/
def readLiteral? : List Char → Option (List Char × List Char)
  | '\'' :: rest => readQuoted? rest
  | _ => none

/-- The position of the quote that closes the text quoted from the beginning on. -/
def quoteEnd? : List Char → Option Nat
  | [] => none
  | quote :: rest => (quotedBody? quote rest).map (·.length + 1)

variable {c : Char} {rest : List Char}

theorem readQuoted?_cons_of_ne (h : c ≠ '\'') (rest : List Char) :
    readQuoted? (c :: rest) = (readQuoted? rest).map fun (text, rest) => (c :: text, rest) := by
  rw [readQuoted?] <;> simp_all

theorem readQuoted?_closing (h : rest.head? ≠ some '\'') :
    readQuoted? ('\'' :: rest) = some ([], rest) := by
  rw [readQuoted?]
  rintro tail rfl
  exact h rfl

/-- **A quote that is written twice stands for itself**, and a lone one ends the text. -/
theorem readQuoted?_doubled (h : rest.head? ≠ some '\'') (cs : List Char) :
    readQuoted? (doubled '\'' cs ++ '\'' :: rest) = some (cs, rest) := by
  induction cs with
  | nil => exact readQuoted?_closing h
  | cons c cs ih =>
      by_cases hc : c = '\''
      · subst hc
        rw [doubled_cons_self, List.cons_append, List.cons_append, readQuoted?, ih]
        rfl
      · rw [doubled_cons_of_ne hc, List.cons_append, readQuoted?_cons_of_ne hc, ih]
        rfl

theorem readLiteral?_literal (h : rest.head? ≠ some '\'') (cs : List Char) :
    readLiteral? (literal cs ++ rest) = some (cs, rest) := by
  have htext : literal cs ++ rest = '\'' :: (doubled '\'' cs ++ '\'' :: rest) := by simp [literal]
  rw [htext, readLiteral?, readQuoted?_doubled h]

end Readers

section Literals

variable {value text rest : List Char}

theorem doubled_comm {mark quote : Char} (h : mark ≠ quote) (cs : List Char) :
    doubled mark (doubled quote cs) = doubled quote (doubled mark cs) := by
  induction cs with
  | nil => rfl
  | cons c cs ih =>
      by_cases hquote : c = quote
      · subst hquote
        simp [doubled_cons_of_ne (Ne.symm h), ih]
      by_cases hmark : c = mark
      · subst hmark
        simp [doubled_cons_of_ne h, ih]
      · simp [doubled_cons_of_ne hquote, doubled_cons_of_ne hmark, ih]

/-- The quotes of a literal for the driver are those of a literal for the server. -/
theorem escapePercent_literal (cs : List Char) :
    escapePercent (literal cs) = literal (escapePercent cs) := by
  rw [literal, literal, List.cons_append, escapePercent_cons_of_ne (by decide), escapePercent_append,
    escapePercent, doubled_comm (by decide)]
  rfl

theorem quoteLiteral?_eq_some : quoteLiteral? value = some text ↔
    value ≠ [] ∧ '\x00' ∉ value ∧ text = escapePercent (literal value) := by
  rw [quoteLiteral?]
  split_ifs with h
  · refine iff_of_false nofun ?_
    rintro ⟨hfull, hnul, -⟩
    simp [hfull, hnul] at h
  · simp only [Bool.or_eq_true, List.isEmpty_iff, List.contains_iff_mem, not_or] at h
    rw [Option.some.injEq]
    exact ⟨fun heq => ⟨h.1, h.2, heq.symm⟩, fun heq => heq.2.2.symm⟩

theorem length_pos_of_quoteLiteral? (h : quoteLiteral? value = some text) : 0 < text.length := by
  obtain ⟨-, -, rfl⟩ := quoteLiteral?_eq_some.mp h
  rw [escapePercent_literal, literal, List.length_append]
  exact Nat.add_pos_right _ Nat.one_pos

/-- What the readers make of the literal of a text with more behind it. -/
structure IsReadBack (value text rest : List Char) : Prop where
  /-- The driver gives the literal to the server and leaves the rest as it is. -/
  interpolate_eq : interpolate (text ++ rest) [] = some (literal value ++ rest)
  /-- The server reads the text, and nothing behind the literal. -/
  readLiteral?_eq : readLiteral? (literal value ++ rest) = some (value, rest)
  /-- The quoted text ends with the last character of the literal. -/
  quoteEnd?_eq : quoteEnd? (text ++ rest) = some (text.length - 1)

theorem interpolate_quoteLiteral? (h : quoteLiteral? value = some text) (hrest : '%' ∉ rest) :
    interpolate (text ++ rest) [] = some (literal value ++ rest) := by
  obtain ⟨-, -, rfl⟩ := quoteLiteral?_eq_some.mp h
  rw [interpolate_escapePercent, (Renders.of_notMem hrest).interpolate_eq, Option.map_some]

theorem quoteEnd?_quoteLiteral? (h : quoteLiteral? value = some text)
    (hrest : rest.head? ≠ some '\'') : quoteEnd? (text ++ rest) = some (text.length - 1) := by
  obtain ⟨-, -, rfl⟩ := quoteLiteral?_eq_some.mp h
  have htext : escapePercent (literal value) ++ rest =
      '\'' :: (doubled '\'' (escapePercent value) ++ '\'' :: rest) := by
    rw [escapePercent_literal]
    simp [literal]
  rw [htext, quoteEnd?, quotedBody?_doubled_closing hrest, escapePercent_literal]
  simp [literal]

/-- What stands behind a literal for the driver cannot be mistaken for a part of it. -/
theorem eq_of_quoteLiteral?_append {other otherText more : List Char}
    (h : quoteLiteral? value = some text) (hother : quoteLiteral? other = some otherText)
    (hrest : rest.head? ≠ some '\'') (hmore : more.head? ≠ some '\'')
    (heq : text ++ rest = otherText ++ more) : value = other ∧ rest = more := by
  have hlength : text.length = otherText.length := by
    have hend := quoteEnd?_quoteLiteral? h hrest
    rw [heq, quoteEnd?_quoteLiteral? hother hmore, Option.some.injEq] at hend
    have hpos := length_pos_of_quoteLiteral? h
    have hotherPos := length_pos_of_quoteLiteral? hother
    omega
  obtain ⟨rfl, rfl⟩ := List.append_inj heq hlength
  have hliteral : some (literal value ++ []) = some (literal other ++ []) := by
    rw [← interpolate_quoteLiteral? h List.not_mem_nil,
      interpolate_quoteLiteral? hother List.not_mem_nil]
  have hvalue := readLiteral?_literal hrest value
  rw [List.append_cancel_right (Option.some.inj hliteral), readLiteral?_literal hrest] at hvalue
  exact ⟨(Prod.mk.inj (Option.some.inj hvalue)).1.symm, rfl⟩

/-- **A literal is read back.** A text that is not empty and does not hold the character U+0000 has a
literal. Whatever stands behind the literal, unless it is a quote, the driver and the server give the
text back, and the quoted text ends where the literal does. So different texts have different
literals, and none of them ends early. -/
theorem isReadBack_quoteLiteral? (hfull : value ≠ []) (hnul : '\x00' ∉ value) :
    ∃ text, quoteLiteral? value = some text ∧
      (∀ rest, '%' ∉ rest → rest.head? ≠ some '\'' → IsReadBack value text rest) ∧
      ∀ other otherText rest more, quoteLiteral? other = some otherText →
        rest.head? ≠ some '\'' → more.head? ≠ some '\'' → text ++ rest = otherText ++ more →
        value = other ∧ rest = more := by
  have hquoted : quoteLiteral? value = some (escapePercent (literal value)) :=
    quoteLiteral?_eq_some.mpr ⟨hfull, hnul, rfl⟩
  refine ⟨_, hquoted, fun rest hpercent hrest => ?_, ?_⟩
  · exact ⟨interpolate_quoteLiteral? hquoted hpercent, readLiteral?_literal hrest value,
      quoteEnd?_quoteLiteral? hquoted hrest⟩
  · intro other otherText rest more hother hrest hmore heq
    exact eq_of_quoteLiteral?_append hquoted hother hrest hmore heq

/-- A text with percent signs and quotes inside, and a backslash in front of its last quote. -/
def quotedName : List Char :=
  "100%% of 'x\\'".toList

theorem isReadBack_quotedName :
    quoteLiteral? quotedName = some "'100%%%% of ''x\\'''".toList ∧
      IsReadBack quotedName "'100%%%% of ''x\\'''".toList ", 4096".toList := by
  have htext : quoteLiteral? quotedName = some "'100%%%% of ''x\\'''".toList := by decide
  obtain ⟨text, hquoted, hread, -⟩ :=
    @isReadBack_quoteLiteral? quotedName (by decide) (by decide)
  obtain rfl := Option.some.inj (hquoted.symm.trans htext)
  exact ⟨htext, hread ", 4096".toList (by decide) (by decide)⟩

end Literals

end Sql
end VectorTiles
