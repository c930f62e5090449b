import Mathlib.Data.List.Forall2
import Mathlib.Data.List.TakeWhile
import ModuleClosure.Text.Blank

/-!
# Blanks, cuts and fields

What trimming leaves, where a text is cut, and which fields it has. Blanks around a text are blanks
around its first and its last field, so the trimmed fields of a text do not depend on them.
-/
namespace ModuleClosure.Text

variable {s t a b : List Char} {sep : Char}

theorem trim_eq_nil_iff : trim s = [] ↔ ∀ c ∈ s, isBlank c = true := by
  rw [trim, trimEnd, List.reverse_eq_nil_iff, List.dropWhile_eq_nil_iff]
  simp only [List.mem_reverse]
  constructor
  · intro h
    have hnil : trimStart s = [] := by
      by_contra hne
      have hhead : isBlank ((trimStart s).head hne) = false := List.head_dropWhile_not isBlank hne
      rw [h _ (List.head_mem hne)] at hhead
      cases hhead
    exact List.dropWhile_eq_nil_iff.mp hnil
  · intro h c hc
    rw [trimStart, List.dropWhile_eq_nil_iff.mpr h] at hc
    cases hc

theorem trim_append_left (h : ∀ c ∈ t, isBlank c = true) : trim (t ++ s) = trim s := by
  rw [trim, trimStart, List.dropWhile_append_of_pos h, trim, trimStart]

theorem trim_append_right (h : ∀ c ∈ t, isBlank c = true) : trim (s ++ t) = trim s := by
  rw [trim, trimStart, List.dropWhile_append, trim, trimStart]
  split
  · rename_i hs
    rw [List.dropWhile_eq_nil_iff.mpr h, List.isEmpty_iff.mp hs]
  · rw [trimEnd, trimEnd, List.reverse_append, List.dropWhile_append_of_pos (by simpa using h)]

/-- A text is its trimmed text with blanks around it. -/
theorem exists_eq_trim (s : List Char) : ∃ a b, s = a ++ trim s ++ b ∧
    (∀ c ∈ a, isBlank c = true) ∧ ∀ c ∈ b, isBlank c = true := by
  refine ⟨s.takeWhile isBlank, ((trimStart s).reverse.takeWhile isBlank).reverse, ?_,
    fun c hc => List.mem_takeWhile_imp hc, fun c hc => ?_⟩
  · rw [List.append_assoc, trim, trimEnd, ← List.reverse_append, List.takeWhile_append_dropWhile,
      List.reverse_reverse, trimStart, List.takeWhile_append_dropWhile]
  · exact List.mem_takeWhile_imp (List.mem_reverse.mp hc)

theorem cut?_eq_some_iff : cut? sep s = some (a, b) ↔ s = a ++ sep :: b ∧ sep ∉ a := by
  induction s generalizing a with
  | nil => simp [cut?]
  | cons c r ih =>
    rw [cut?]
    by_cases hc : c = sep
    · rw [if_pos hc]
      cases a with
      | nil => simp [hc, eq_comm]
      | cons x a => simp [← hc]; grind
    · rw [if_neg hc]
      cases a with
      | nil => simp [hc]
      | cons x a => simp [ih]; grind

theorem cut?_eq_none_iff : cut? sep s = none ↔ sep ∉ s := by
  induction s with
  | nil => simp [cut?]
  | cons c r ih =>
    by_cases hc : c = sep
    · simp [cut?, hc]
    · simp [cut?, hc, ih, Ne.symm hc]

theorem fields_eq_splitOn : fields sep s = s.splitOn sep := by
  induction s with
  | nil => rfl
  | cons c r ih => simp [fields, ih, List.splitOn_cons_eq_if_modifyHead]

/-- A field is part of the text and holds no separator. -/
theorem of_mem_fields {x : List Char} (h : x ∈ fields sep s) : sep ∉ x ∧ x ⊆ s := by
  induction s generalizing x with
  | nil =>
    obtain rfl : x = [] := by simpa [fields] using h
    simp
  | cons c r ih =>
    rw [fields] at h
    split at h
    · rcases List.mem_cons.mp h with rfl | h
      · simp
      · exact ⟨(ih h).1, List.subset_cons_of_subset c (ih h).2⟩
    · rename_i hc
      cases hr : fields sep r with
      | nil => simp [hr] at h
      | cons y ys =>
        rw [hr] at h ih
        rcases List.mem_cons.mp h with rfl | h
        · obtain ⟨hsep, hsub⟩ := ih List.mem_cons_self
          exact ⟨by simpa [Ne.symm hc] using hsep, List.cons_subset_cons c hsub⟩
        · obtain ⟨hsep, hsub⟩ := ih (List.mem_cons_of_mem y h)
          exact ⟨hsep, List.subset_cons_of_subset c hsub⟩

theorem fields_append_cons (s t : List Char) :
    fields sep (s ++ sep :: t) = fields sep s ++ fields sep t := by
  simp only [fields_eq_splitOn, List.splitOn_append_cons_self]

/-- The fields of a text are the parts without a separator that it is joined from. -/
theorem fields_eq_iff {parts : List (List Char)} :
    fields sep s = parts ↔ parts ≠ [] ∧ s = [sep].intercalate parts ∧ ∀ x ∈ parts, sep ∉ x := by
  constructor
  · rintro rfl
    refine ⟨?_, ?_, fun x hx => (of_mem_fields hx).1⟩
    · rw [fields_eq_splitOn]
      exact List.splitOn_ne_nil sep s
    · rw [fields_eq_splitOn, List.intercalate_splitOn]
  · rintro ⟨hne, rfl, hsep⟩
    rw [fields_eq_splitOn, List.splitOn_intercalate sep hsep hne]

section Blanks

variable (hsep : isBlank sep = false)
include hsep

private theorem not_mem_of_blank (h : ∀ c ∈ t, isBlank c = true) : sep ∉ t := by
  intro hmem
  rw [h sep hmem] at hsep
  cases hsep

theorem map_trim_fields_append_left (h : ∀ c ∈ t, isBlank c = true) :
    (fields sep (t ++ s)).map trim = (fields sep s).map trim := by
  induction t with
  | nil => rfl
  | cons c t ih =>
    obtain ⟨hc, ht⟩ := List.forall_mem_cons.mp h
    have hne : c ≠ sep := by
      rintro rfl
      cases hsep.symm.trans hc
    rw [← ih ht, List.cons_append, fields, if_neg hne]
    cases fields sep (t ++ s) with
    | nil => rfl
    | cons x xs =>
      have htrim : trim (c :: x) = trim x := trim_append_left (t := [c]) (by simpa using hc)
      simp [htrim]

theorem map_trim_fields_append_right (h : ∀ c ∈ t, isBlank c = true) :
    (fields sep (s ++ t)).map trim = (fields sep s).map trim := by
  -- The fields differ in blanks at their ends at most.
  have hfields : List.Forall₂ (fun x y => ∃ u, (∀ c ∈ u, isBlank c = true) ∧ x = y ++ u)
      (fields sep (s ++ t)) (fields sep s) := by
    induction s with
    | nil =>
      rw [List.nil_append, fields_eq_splitOn, List.splitOn_eq_singleton (not_mem_of_blank hsep h)]
      exact .cons ⟨t, h, rfl⟩ .nil
    | cons c r ih =>
      rw [List.cons_append, fields, fields]
      split
      · exact .cons ⟨[], by simp⟩ ih
      · generalize fields sep (r ++ t) = xs, fields sep r = ys at ih ⊢
        cases ih with
        | nil => exact .nil
        | cons hx hxs =>
          obtain ⟨u, hu, rfl⟩ := hx
          exact .cons ⟨u, hu, rfl⟩ hxs
  generalize fields sep (s ++ t) = xs, fields sep s = ys at hfields ⊢
  induction hfields with
  | nil => rfl
  | cons hx _ ih =>
    obtain ⟨u, hu, rfl⟩ := hx
    rw [List.map_cons, List.map_cons, trim_append_right hu, ih]

/-- Blanks around a text do not matter to its trimmed fields. -/
theorem map_trim_fields_trim (s : List Char) :
    (fields sep (trim s)).map trim = (fields sep s).map trim := by
  obtain ⟨a, b, hs, ha, hb⟩ := exists_eq_trim s
  calc (fields sep (trim s)).map trim
    _ = (fields sep (a ++ trim s)).map trim := (map_trim_fields_append_left hsep ha).symm
    _ = (fields sep (a ++ trim s ++ b)).map trim := (map_trim_fields_append_right hsep hb).symm
    _ = (fields sep s).map trim := by rw [← hs]

end Blanks

end ModuleClosure.Text
