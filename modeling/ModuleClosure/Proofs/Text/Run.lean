import Mathlib.Data.List.DropRight
import Mathlib.Data.List.TakeWhile
import ModuleClosure.Proofs.Text.Blank

/-!
# Runs of characters

A run of characters of one class is cut off where the text goes on with another character. A trimmed
text neither starts nor ends with a run of blanks.
-/
namespace ModuleClosure.Text

variable {p : Char → Bool} {s t run rest : List Char}

/-- A text that does not go on with a character of the class. -/
def Stops (p : Char → Bool) (rest : List Char) : Prop := ∀ c ∈ rest.head?, p c = false

@[simp] theorem stops_nil : Stops p [] := nofun

@[simp] theorem stops_cons {c : Char} : Stops p (c :: rest) ↔ p c = false := by
  simp [Stops]

instance : (rest : List Char) → Decidable (Stops p rest)
  | [] => .isTrue stops_nil
  | _ :: _ => decidable_of_iff _ stops_cons.symm

theorem stops_dropWhile (s : List Char) : Stops p (s.dropWhile p) := by
  intro c hc
  have h := List.head?_dropWhile_not p s
  rw [Option.mem_def.mp hc] at h
  exact h

/-- A run and what follows it are found again. -/
theorem cut_run (hrun : ∀ c ∈ run, p c = true) (hrest : Stops p rest) :
    (run ++ rest).takeWhile p = run ∧ (run ++ rest).dropWhile p = rest := by
  rw [List.takeWhile_append_of_pos hrun, List.dropWhile_append_of_pos hrun]
  cases rest with
  | nil => simp
  | cons c r => simp [stops_cons.mp hrest]

theorem Stops.append (hrun : ∀ c ∈ run, p c = false) (hrest : Stops p rest) :
    Stops p (run ++ rest) := by
  cases run with
  | nil => exact hrest
  | cons c r => exact stops_cons.mpr (hrun c List.mem_cons_self)

theorem Stops.mono (h : Stops p s) (hstart : t <+: s) : Stops p t := by
  obtain ⟨r, rfl⟩ := hstart
  cases t with
  | nil => exact stops_nil
  | cons c t => exact stops_cons.mpr (stops_cons.mp h)

theorem Stops.trimStart_eq (h : Stops isBlank s) : trimStart s = s := by
  cases s with
  | nil => rfl
  | cons c r => simp [trimStart, stops_cons.mp h]

theorem trim_eq_self (hstart : Stops isBlank s)
    (hlast : ∀ hne : s ≠ [], isBlank (s.getLast hne) = false) : trim s = s := by
  rw [trim, hstart.trimStart_eq]
  exact List.rdropWhile_eq_self_iff.mpr fun hne => by simp [hlast hne]

/-- Blanks are trimmed no further than to the last character that is none. -/
theorem trim_append_cons {c : Char} (hs : Stops isBlank s) (hc : isBlank c = false)
    (t : List Char) : trim (s ++ c :: t) = s ++ c :: trimEnd t := by
  have hstart : Stops isBlank (s ++ c :: t) := by
    cases s with
    | nil => exact stops_cons.mpr hc
    | cons d r => exact stops_cons.mpr (stops_cons.mp hs)
  rw [trim, hstart.trimStart_eq, trimEnd, List.reverse_append, List.reverse_cons, List.append_assoc,
    List.dropWhile_append]
  split
  · rename_i hnil
    rw [List.isEmpty_iff] at hnil
    simp [trimEnd, hnil, hc]
  · simp [trimEnd]

theorem mem_of_mem_trim {c : Char} (h : c ∈ trim s) : c ∈ s := by
  obtain ⟨a, b, hs, -, -⟩ := exists_eq_trim s
  rw [hs]
  exact List.mem_append_left b (List.mem_append_right a h)

/-- A trimmed text does not start with a blank. -/
theorem stops_trim (s : List Char) : Stops isBlank (trim s) :=
  (stops_dropWhile s).mono (List.rdropWhile_prefix isBlank (trimStart s))

/-- A trimmed text does not end with a blank. -/
theorem trimEnd_of_suffix (h : t <:+ trim s) : trimEnd t = t := by
  refine List.rdropWhile_eq_self_iff.mpr fun hne => ?_
  rw [h.getLast hne]
  exact List.rdropWhile_last_not isBlank (trimStart s) _

theorem trim_of_suffix (h : t <:+ trim s) : trim t = trimStart t :=
  trimEnd_of_suffix ((List.dropWhile_suffix isBlank).trans h)

end ModuleClosure.Text
