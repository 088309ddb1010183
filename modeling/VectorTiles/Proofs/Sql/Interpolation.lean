import VectorTiles.Proofs.Sql.Percent

/-!
# Interpolation of parameters

The driver reads a statement from left to right. It writes one percent sign for two, and the next
parameter for a placeholder. Any other percent sign is refused, and so is a wrong number of
parameters.

**Results.**

* `interpolate`: the text that reaches the server.
* `interpolate_escapePercent`: a text whose percent signs are doubled reaches the server unchanged
  and takes no parameter.
* `Renders.append`, `Renders.intercalate`: the parts of a statement are read one after another.
-/

namespace VectorTiles
namespace Sql

section Interpolation

/-- The text of a statement with the parameters in place of the placeholders. -/
def interpolate : List Char → List Int → Option (List Char)
  | [], [] => some []
  | [], _ :: _ => none
  | '%' :: '%' :: rest, params => (interpolate rest params).map ('%' :: ·)
  | '%' :: 's' :: rest, param :: params =>
    (interpolate rest params).map ((toString param).toList ++ ·)
  | '%' :: _, _ => none
  | c :: rest, params => (interpolate rest params).map (c :: ·)

variable {c : Char} {params : List Int}

theorem interpolate_cons_of_ne (h : c ≠ '%') (rest : List Char) (params : List Int) :
    interpolate (c :: rest) params = (interpolate rest params).map (c :: ·) := by
  rw [interpolate] <;> simp_all

/-- **A doubled percent sign stands for itself**, whatever stands behind it. -/
theorem interpolate_escapePercent (cs rest : List Char) (params : List Int) :
    interpolate (escapePercent cs ++ rest) params = (interpolate rest params).map (cs ++ ·) := by
  induction cs with
  | nil => simp [escapePercent, doubled]
  | cons c cs ih =>
      by_cases hc : c = '%'
      · subst hc
        have hdoubled : escapePercent ('%' :: cs) = '%' :: '%' :: escapePercent cs :=
          doubled_cons_self '%' cs
        rw [hdoubled, List.cons_append, List.cons_append, interpolate, ih, Option.map_map]
        rfl
      · rw [escapePercent_cons_of_ne hc, List.cons_append, interpolate_cons_of_ne hc, ih,
          Option.map_map]
        rfl

end Interpolation

section Rendering

/-- A part of a statement takes these parameters and becomes this text, whatever stands behind
it. -/
def Renders (part : List Char) (params : List Int) (text : List Char) : Prop :=
  ∀ rest more,
    interpolate (part ++ rest) (params ++ more) = (interpolate rest more).map (text ++ ·)

variable {part next text nextText : List Char} {params nextParams : List Int}

theorem Renders.interpolate_eq (h : Renders part params text) :
    interpolate part params = some text := by
  have hend := h [] []
  rw [List.append_nil, List.append_nil, interpolate] at hend
  simpa using hend

theorem Renders.nil : Renders [] [] [] := fun rest more => by simp

theorem Renders.append (h : Renders part params text) (hnext : Renders next nextParams nextText) :
    Renders (part ++ next) (params ++ nextParams) (text ++ nextText) := by
  intro rest more
  rw [List.append_assoc, List.append_assoc, h, hnext, Option.map_map]
  simp [Function.comp_def]

theorem Renders.escapePercent (cs : List Char) : Renders (escapePercent cs) [] cs :=
  fun rest more => interpolate_escapePercent cs rest more

theorem Renders.of_notMem {cs : List Char} (h : '%' ∉ cs) : Renders cs [] cs := by
  have hescaped := Renders.escapePercent cs
  rwa [escapePercent_of_notMem h] at hescaped

theorem Renders.placeholder (param : Int) : Renders ['%', 's'] [param] (toString param).toList :=
  fun rest more => by simp [interpolate]

/-- Text without percent signs may stand around a part. -/
theorem Renders.between {front back : List Char} (hfront : '%' ∉ front) (hback : '%' ∉ back)
    (h : Renders part params text) :
    Renders (front ++ part ++ back) params (front ++ text ++ back) := by
  have hall := ((Renders.of_notMem hfront).append h).append (Renders.of_notMem hback)
  rwa [List.append_nil, List.nil_append] at hall

theorem Renders.intercalate {α : Type} {separator : List Char} {part text : α → List Char}
    {params : α → List Int} (hseparator : '%' ∉ separator)
    (h : ∀ a, Renders (part a) (params a) (text a)) (items : List α) :
    Renders (List.intercalate separator (items.map part)) (items.flatMap params)
      (List.intercalate separator (items.map text)) := by
  induction items with
  | nil => exact Renders.nil
  | cons a items ih =>
      cases items with
      | nil => simpa using h a
      | cons b items =>
          have hall := ((h a).append (Renders.of_notMem hseparator)).append ih
          simpa using hall

end Rendering

end Sql
end VectorTiles
