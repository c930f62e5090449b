import Mathlib.Data.List.Forall2

/-!
# Readings

A reading is known by what it accepts and by what it refuses. A list is read element by element: if
each element can be read, so can the list, and otherwise there is a first element that cannot.
-/
namespace ModuleClosure

section Decided

variable {ε α : Type} {x : Except ε α} {accepts : α → Prop} {refuses : ε → Prop}
  (hok : ∀ {a}, accepts a → x = .ok a) (herror : ∀ {e}, refuses e → x = .error e)
  (h : (∃ a, accepts a) ∨ ∃ e, refuses e)
include hok herror h

theorem eq_ok_iff_of_or {a : α} : x = .ok a ↔ accepts a := by
  refine ⟨fun hx => ?_, hok⟩
  rcases h with ⟨b, hb⟩ | ⟨e, he⟩
  · cases hx.symm.trans (hok hb)
    exact hb
  · cases hx.symm.trans (herror he)

theorem eq_error_iff_of_or {e : ε} : x = .error e ↔ refuses e := by
  refine ⟨fun hx => ?_, herror⟩
  rcases h with ⟨a, ha⟩ | ⟨f, hf⟩
  · cases hx.symm.trans (hok ha)
  · cases hx.symm.trans (herror hf)
    exact hf

end Decided

variable {α β : Type} {p : α → Prop} {r : α → β → Prop} {xs : List α}

theorem exists_first_not (h : ¬ ∀ x ∈ xs, p x) :
    ∃ before x after, xs = before ++ x :: after ∧ (∀ y ∈ before, p y) ∧ ¬ p x := by
  classical
  cases hfind : xs.find? fun x => decide (¬ p x) with
  | none => exact absurd (by simpa using hfind) h
  | some x =>
    obtain ⟨hx, before, after, hxs, hbefore⟩ := List.find?_eq_some_iff_append.mp hfind
    exact ⟨before, x, after, hxs, by simpa using hbefore, by simpa using hx⟩

theorem exists_forall₂_iff : (∃ ys, List.Forall₂ r xs ys) ↔ ∀ x ∈ xs, ∃ y, r x y := by
  constructor
  · rintro ⟨ys, h⟩
    induction h with
    | nil => exact nofun
    | cons hx _ ih => exact List.forall_mem_cons.mpr ⟨⟨_, hx⟩, ih⟩
  · intro h
    induction xs with
    | nil => exact ⟨[], .nil⟩
    | cons x xs ih =>
      obtain ⟨⟨y, hx⟩, hxs⟩ := List.forall_mem_cons.mp h
      obtain ⟨ys, hys⟩ := ih hxs
      exact ⟨y :: ys, .cons hx hys⟩

end ModuleClosure
