import ModuleClosure.Proofs.Text.Run

/-!
# Lines

A text is a number of lines that each end at a line feed, and a rest without one. Where two texts
are put together with a line feed between them, the lines are those of both, up to blanks, and an
empty line stands between them if the first text is empty or ends with a line feed itself.
-/
namespace ModuleClosure.Text

variable {c : Char} {s line rest : List Char}

/-- A line without a carriage return at its end. -/
def withoutReturn (line : List Char) : List Char :=
  if line.getLast? = some '\r' then line.dropLast else line

theorem withoutReturn_cons (hne : line ≠ []) :
    withoutReturn (c :: line) = c :: withoutReturn line := by
  rw [withoutReturn, withoutReturn, List.getLast?_cons_of_ne_nil hne,
    List.dropLast_cons_of_ne_nil hne]
  split <;> rfl

theorem trim_withoutReturn (line : List Char) : trim (withoutReturn line) = trim line := by
  rw [withoutReturn]
  split
  · rename_i hlast
    obtain ⟨init, rfl⟩ := List.getLast?_eq_some_iff.mp hlast
    rw [List.dropLast_concat, trim_append_right (List.forall_mem_singleton.mpr rfl)]
  · rfl

theorem lines_cons {first : List Char} {others : List (List Char)} (hc : c ≠ '\n')
    (hreturn : c = '\r' → s.head? ≠ some '\n') (h : lines s = first :: others) :
    lines (c :: s) = (c :: first) :: others := by
  rw [lines.eq_def]
  split <;> simp_all

/-- The first line of a text that has a line feed. -/
theorem lines_append_cons (h : '\n' ∉ line) (rest : List Char) :
    lines (line ++ '\n' :: rest) = withoutReturn line :: lines rest := by
  induction line with
  | nil => rfl
  | cons c line ih =>
    have hc : c ≠ '\n' := (List.ne_of_not_mem_cons h).symm
    have hline : '\n' ∉ line := List.not_mem_of_not_mem_cons h
    cases line with
    | nil =>
      by_cases hr : c = '\r'
      · subst hr
        rfl
      · have hsame : withoutReturn [c] = [c] := if_neg (by simpa using hr)
        rw [hsame]
        exact lines_cons hc (fun h => absurd h hr) rfl
    | cons d line =>
      have hd : d ≠ '\n' := (List.ne_of_not_mem_cons hline).symm
      rw [withoutReturn_cons (List.cons_ne_nil d line)]
      exact lines_cons hc (fun _ => by simpa using hd) (ih hline)

/-- A text without a line feed is one line, if it is not empty. -/
theorem lines_of_not_mem (h : '\n' ∉ line) (hne : line ≠ []) : lines line = [line] := by
  induction line with
  | nil => exact absurd rfl hne
  | cons c line ih =>
    have hc : c ≠ '\n' := (List.ne_of_not_mem_cons h).symm
    have hline : '\n' ∉ line := List.not_mem_of_not_mem_cons h
    cases line with
    | nil =>
      rw [lines.eq_def]
      split <;> simp_all [lines]
    | cons d line =>
      have hd : d ≠ '\n' := (List.ne_of_not_mem_cons hline).symm
      exact lines_cons hc (fun _ => by simpa using hd) (ih hline (List.cons_ne_nil d line))

/-- Lines are found again between the line feeds that join them, if they are not empty and do not
end with a carriage return. -/
theorem lines_intercalate {ls : List (List Char)}
    (h : ∀ line ∈ ls, line ≠ [] ∧ '\n' ∉ line ∧ withoutReturn line = line) :
    lines (['\n'].intercalate ls) = ls := by
  induction ls with
  | nil => rfl
  | cons line ls ih =>
    obtain ⟨⟨hne, hfeed, hreturn⟩, hls⟩ := List.forall_mem_cons.mp h
    cases ls with
    | nil => rw [List.intercalate_singleton, lines_of_not_mem hfeed hne]
    | cons next ls =>
      rw [List.intercalate_cons_cons, List.append_assoc, List.singleton_append,
        lines_append_cons hfeed, hreturn, ih hls]

/-- A text is one line, or a first line and what follows its line feed. -/
theorem line_induction {motive : List Char → Prop} (last : ∀ line, '\n' ∉ line → motive line)
    (first : ∀ line rest, '\n' ∉ line → motive rest → motive (line ++ '\n' :: rest))
    (s : List Char) : motive s := by
  induction hn : s.length using Nat.strong_induction_on generalizing s with
  | _ n ih =>
    subst hn
    cases hcut : cut? '\n' s with
    | none => exact last s (cut?_eq_none_iff.mp hcut)
    | some parts =>
      obtain ⟨line, rest⟩ := parts
      obtain ⟨rfl, hline⟩ := cut?_eq_some_iff.mp hcut
      refine first line rest hline (ih rest.length ?_ rest rfl)
      simp only [List.length_append, List.length_cons]
      omega

/-- The lines of two texts with a line feed between them. An empty line is in the gap unless the
first text ends with an unended line. -/
theorem exists_gap (s : List Char) : ∃ gap, (gap = [] ∨ gap = [[]]) ∧ ∀ t,
    (lines (s ++ '\n' :: t)).map trim = (lines s ++ gap ++ lines t).map trim := by
  -- By lines, not by characters: a trimmed line does not tell what it is behind one more character.
  induction s using line_induction with
  | last line h =>
    by_cases hne : line = []
    · exact ⟨[[]], .inr rfl, fun t => by rw [hne]; rfl⟩
    · refine ⟨[], .inl rfl, fun t => ?_⟩
      rw [lines_append_cons h, lines_of_not_mem h hne, List.map_cons, trim_withoutReturn]
      rfl
  | first line rest h ih =>
    obtain ⟨gap, hgap, hrest⟩ := ih
    refine ⟨gap, hgap, fun t => ?_⟩
    rw [List.append_assoc, List.cons_append, lines_append_cons h, lines_append_cons h,
      List.map_cons, hrest]
    rfl

end ModuleClosure.Text
