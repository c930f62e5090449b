import Mathlib.Data.List.Forall2
import Mathlib.Data.List.GetD
import Mathlib.Data.Prod.Lex
import Mathlib.Logic.Relation
import ModuleClosure.Bound
import ModuleClosure.Proofs.Text.Run
import ModuleClosure.Proofs.Version.Numeral

/-!
# Keys of versions

A version text stands for three numbers, its key, if its first three components are numerals. Bounds
compare versions by their keys, lexicographically. How a key is spelled does not matter: a suffix
behind a hyphen, zeros for missing components and components past the third change nothing.
-/
namespace ModuleClosure
open Text

namespace Comparison

/-- The relation that a comparison stands for. -/
def Relates {α : Type} [LE α] [LT α] : Comparison → α → α → Prop
  | atLeast, a, b => b ≤ a
  | atMost, a, b => a ≤ b
  | above, a, b => b < a
  | below, a, b => a < b
  | equal, a, b => a = b

variable {α : Type} [LinearOrder α] {a b : α}

theorem relates_atLeast_iff : atLeast.Relates a b ↔ ¬ below.Relates a b := not_lt.symm

theorem relates_atMost_iff : atMost.Relates a b ↔ ¬ above.Relates a b := not_lt.symm

instance (c : Comparison) (a b : α) : Decidable (c.Relates a b) :=
  match c with
  | atLeast => inferInstanceAs (Decidable (b ≤ a))
  | atMost => inferInstanceAs (Decidable (a ≤ b))
  | above => inferInstanceAs (Decidable (b < a))
  | below => inferInstanceAs (Decidable (a < b))
  | equal => inferInstanceAs (Decidable (a = b))

theorem accepts_compare_iff (c : Comparison) (a b : α) :
    c.accepts (compare a b) = true ↔ c.Relates a b := by
  cases c with
  | atLeast => simp [accepts, Relates, compare_lt_iff_lt]
  | atMost => simp [accepts, Relates, compare_gt_iff_gt]
  | above => simp [accepts, Relates, compare_gt_iff_gt]
  | below => simp [accepts, Relates, compare_lt_iff_lt]
  | equal => simp [accepts, Relates]

theorem accepts_compare (c : Comparison) (a b : α) :
    c.accepts (compare a b) = decide (c.Relates a b) :=
  Bool.eq_iff_iff.mpr ((accepts_compare_iff c a b).trans decide_eq_true_iff.symm)

/-- Of two values, one is below, equal to or above the other. -/
theorem existsUnique_relates (a b : α) :
    ∃! c : Comparison, (c = .below ∨ c = .equal ∨ c = .above) ∧ c.Relates a b := by
  rcases lt_trichotomy a b with h | h | h
  · refine ⟨.below, ⟨.inl rfl, h⟩, ?_⟩
    rintro _ ⟨rfl | rfl | rfl, hc⟩
    · rfl
    · exact absurd hc h.ne
    · exact absurd hc h.not_gt
  · refine ⟨.equal, ⟨.inr (.inl rfl), h⟩, ?_⟩
    rintro _ ⟨rfl | rfl | rfl, hc⟩
    · exact absurd h hc.ne
    · rfl
    · exact absurd h hc.ne'
  · refine ⟨.above, ⟨.inr (.inr rfl), h⟩, ?_⟩
    rintro _ ⟨rfl | rfl | rfl, hc⟩
    · exact absurd hc h.not_gt
    · exact absurd hc h.ne'
    · rfl

end Comparison

namespace Version

/-- Three numbers, ordered lexicographically. -/
abbrev Key := Nat ×ₗ Nat ×ₗ Nat

/-- The key of the first three numbers; missing ones count as zero. -/
def keyOf (ns : List Nat) : Key := toLex (ns.getD 0 0, toLex (ns.getD 1 0, ns.getD 2 0))

/-- The part of a version text that is read: what stands before its first hyphen. -/
def stem (text : String) : List Char := (trim text.toList).takeWhile (· ≠ '-')

/-- The key of a version text: its first three components, or all of fewer, are numerals. -/
def HasKey (text : String) (k : Key) : Prop :=
  ∃ ns, List.Forall₂ Numeral ((fields '.' (stem text)).take 3) ns ∧ keyOf ns = k

/-- Spelling a version with a suffix, with one more zero for a missing component, or with more
components than are read. -/
inductive Respelled (text : String) : String → Prop
  | suffix (s : List Char) : Respelled text (String.ofList (stem text ++ '-' :: s))
  | padding (h : (fields '.' (stem text)).length < 3) :
      Respelled text (String.ofList (stem text ++ ['.', '0']))
  | further (h : 3 ≤ (fields '.' (stem text)).length) (more : List Char) :
      Respelled text (String.ofList (stem text ++ '.' :: more))

/-- A component of a version text; a missing one is the numeral of zero. -/
def component (text : String) (i : Nat) : List Char := (fields '.' (stem text)).getD i ['0']

/-- The version with a key. -/
def ofKey (k : Key) : Version := ⟨(ofLex k).1, (ofLex (ofLex k).2).1, (ofLex (ofLex k).2).2, []⟩

variable {text text' : String} {version : Version} {k : Key} {i : Nat}

section Reading

theorem hasKey_iff : HasKey text k ↔ ∃ a b c, Numeral (component text 0) a ∧
    Numeral (component text 1) b ∧ Numeral (component text 2) c ∧ toLex (a, toLex (b, c)) = k := by
  unfold HasKey component
  -- Up to three fields are read; a missing one is the numeral of zero.
  rcases fields '.' (stem text) with _ | ⟨x, _ | ⟨y, _ | ⟨z, rest⟩⟩⟩ <;>
    simp [List.forall₂_cons_left_iff, keyOf, and_assoc]

theorem components_eq (text : String) :
    components text.toList = (component text 0, component text 1, component text 2) := by
  unfold components component stem
  split <;> rename_i h <;> rw [h] <;> rfl

theorem read_of_hasKey (h : HasKey text k) : read text = .ok (ofKey k) := by
  obtain ⟨a, b, c, ha, hb, hc, rfl⟩ := hasKey_iff.mp h
  have hlast := (lastComponent_eq_ok_iff hc.not_mem_plus).mpr ⟨hc, rfl⟩
  rw [read, components_eq]
  simp only [wholeComponent_eq_ok_iff.mpr ha, wholeComponent_eq_ok_iff.mpr hb, hlast]
  rfl

theorem not_mem_component (h : '+' ∉ stem text) : '+' ∉ component text i := by
  intro hmem
  rw [component, List.getD_eq_getElem?_getD] at hmem
  cases hi : (fields '.' (stem text))[i]? with
  | none =>
    rw [hi] at hmem
    exact absurd hmem (by decide)
  | some x =>
    rw [hi] at hmem
    exact h ((of_mem_fields (List.mem_of_getElem? hi)).2 hmem)

theorem hasKey_of_read (hplus : '+' ∉ stem text) (h : read text = .ok version) :
    ∃ k, HasKey text k := by
  rw [read, components_eq] at h
  dsimp only at h
  cases ha : wholeComponent .major (component text 0) with
  | error fault => simp [ha, bind, Except.bind] at h
  | ok a =>
    cases hb : wholeComponent .minor (component text 1) with
    | error fault => simp [ha, hb, bind, Except.bind] at h
    | ok b =>
      cases hc : lastComponent (component text 2) with
      | error fault => simp [ha, hb, hc, bind, Except.bind] at h
      | ok last =>
        have hlast := (lastComponent_eq_ok_iff (not_mem_component hplus)).mp hc
        exact ⟨_, hasKey_iff.mpr ⟨a, b, last.1, wholeComponent_eq_ok_iff.mp ha,
          wholeComponent_eq_ok_iff.mp hb, hlast.1, rfl⟩⟩

/-- A text without a key and without a tag is no version. -/
theorem exists_read_eq_error (hplus : '+' ∉ stem text) (h : ¬ ∃ k, HasKey text k) :
    ∃ fault, read text = .error fault := by
  cases hread : read text with
  | error fault => exact ⟨fault, rfl⟩
  | ok version => exact absurd (hasKey_of_read hplus hread) h

end Reading

section Order

theorem compare_ofKey (k l : Key) : compare (ofKey k) (ofKey l) = compare k l := by
  obtain ⟨a, b, c⟩ := k
  obtain ⟨a', b', c'⟩ := l
  have htags : compareTags [] [] = .eq := by decide
  calc (compare a a').then ((compare b b').then ((compare c c').then (compareTags [] [])))
    _ = (compare a a').then ((compare b b').then (compare c c')) := by rw [htags, Ordering.then_eq]
    _ = compare (toLex (a, toLex (b, c))) (toLex (a', toLex (b', c'))) := rfl

end Order

section Spelling

theorem stops_stem (text : String) : Stops isBlank (stem text) :=
  (stops_trim text.toList).mono (List.takeWhile_prefix _)

theorem stem_append_cons {c : Char} (hc : isBlank c = false) (t : List Char) :
    stem (String.ofList (stem text ++ c :: t)) =
      stem text ++ (c :: trimEnd t).takeWhile (· ≠ '-') := by
  have hstem : ∀ x ∈ stem text, decide (x ≠ '-') = true := fun x => List.mem_takeWhile_imp
  rw [stem, String.toList_ofList, trim_append_cons (stops_stem text) hc,
    List.takeWhile_append_of_pos hstem]

/-- Another spelling has the same first three components. -/
theorem Respelled.component_eq (h : Respelled text text') (hi : i < 3) :
    component text' i = component text i := by
  cases h with
  | suffix s =>
    rw [component, stem_append_cons rfl]
    simp [component]
  | padding h =>
    have hfields : fields '.' (stem (String.ofList (stem text ++ ['.', '0']))) =
        fields '.' (stem text) ++ [['0']] := by
      rw [stem_append_cons rfl]
      exact fields_append_cons (stem text) ['0']
    rw [component, component, hfields]
    rcases Nat.lt_or_ge i (fields '.' (stem text)).length with hlt | hge
    · exact List.getD_append _ _ _ _ hlt
    · -- A missing component counts as zero already.
      rw [List.getD_append_right _ _ _ _ hge, List.getD_eq_default _ _ hge]
      cases i - (fields '.' (stem text)).length <;> rfl
  | further h more =>
    have hfields : fields '.' (stem (String.ofList (stem text ++ '.' :: more))) =
        fields '.' (stem text) ++ fields '.' ((trimEnd more).takeWhile (· ≠ '-')) := by
      rw [stem_append_cons rfl, ← fields_append_cons]
      rfl
    rw [component, component, hfields]
    exact List.getD_append _ _ _ _ (Nat.lt_of_lt_of_le hi h)

theorem Respelled.hasKey_iff (h : Respelled text text') : HasKey text' k ↔ HasKey text k := by
  rw [Version.hasKey_iff, Version.hasKey_iff, h.component_eq (by decide),
    h.component_eq (by decide), h.component_eq (by decide)]

theorem hasKey_of_eqvGen (h : Relation.EqvGen Respelled text text') :
    HasKey text' k ↔ HasKey text k := by
  induction h with
  | rel _ _ h => exact h.hasKey_iff
  | refl _ => exact Iff.rfl
  | symm _ _ _ ih => exact ih.symm
  | trans _ _ _ _ _ ih ih' => exact ih'.trans ih

end Spelling

end Version

namespace Bound
open Version

variable {v w : String} {k l : Key}

/-- A bound compares keys. -/
theorem admits_of_hasKey (c : Comparison) (hv : HasKey v k) (hw : HasKey w l) :
    admits ⟨c, w⟩ v = .ok (decide (c.Relates k l)) := by
  rw [admits, read_of_hasKey hv, read_of_hasKey hw]
  calc Except.ok (c.accepts (compare (ofKey k) (ofKey l)))
    _ = .ok (c.accepts (compare k l)) := by rw [compare_ofKey]
    _ = .ok (decide (c.Relates k l)) := by rw [Comparison.accepts_compare]

theorem exists_admits_eq_error (c : Comparison)
    (h : (∃ fault, read v = .error fault) ∨ ∃ fault, read w = .error fault) :
    ∃ fault, admits ⟨c, w⟩ v = .error fault := by
  rw [admits]
  cases hv : read v with
  | error fault => exact ⟨fault, rfl⟩
  | ok actual =>
    rcases h with ⟨fault, h⟩ | ⟨fault, h⟩
    · cases hv.symm.trans h
    · rw [h]
      exact ⟨fault, rfl⟩

/-- Between versions with keys, a bound tells how the keys stand to each other: exactly one of `<`,
`=` and `>` holds, `>=` and `<=` are negations, and other spellings change nothing. If a version has
neither a key nor a tag, every bound fails. -/
theorem admits_by_key (v w : String) :
    (∀ k l, HasKey v k → HasKey w l →
      (∀ c, admits ⟨c, w⟩ v = .ok (decide (c.Relates k l))) ∧
      (∃! c, (c = .below ∨ c = .equal ∨ c = .above) ∧ admits ⟨c, w⟩ v = .ok true) ∧
      admits ⟨.atLeast, w⟩ v = (admits ⟨.below, w⟩ v).map not ∧
      admits ⟨.atMost, w⟩ v = (admits ⟨.above, w⟩ v).map not ∧
      ∀ c v' w', Relation.EqvGen Respelled v v' → Relation.EqvGen Respelled w w' →
        admits ⟨c, w'⟩ v' = admits ⟨c, w⟩ v) ∧
    (('+' ∉ stem v ∧ ¬ ∃ k, HasKey v k) ∨ ('+' ∉ stem w ∧ ¬ ∃ k, HasKey w k) →
      ∀ c, ∃ fault, admits ⟨c, w⟩ v = .error fault) := by
  constructor
  · intro k l hv hw
    have hadmits (c : Comparison) := admits_of_hasKey c hv hw
    refine ⟨hadmits, ?_, ?_, ?_, fun c v' w' hv' hw' => ?_⟩
    · simpa [hadmits] using Comparison.existsUnique_relates k l
    · rw [hadmits, hadmits, Except.map, ← decide_not]
      exact congrArg Except.ok (decide_eq_decide.mpr Comparison.relates_atLeast_iff)
    · rw [hadmits, hadmits, Except.map, ← decide_not]
      exact congrArg Except.ok (decide_eq_decide.mpr Comparison.relates_atMost_iff)
    · rw [hadmits]
      exact admits_of_hasKey c ((hasKey_of_eqvGen hv').mpr hv) ((hasKey_of_eqvGen hw').mpr hw)
  · intro h c
    exact exists_admits_eq_error c
      (h.imp (fun h => exists_read_eq_error h.1 h.2) fun h => exists_read_eq_error h.1 h.2)

theorem admits_by_key_ten :
    admits ⟨.above, "2.9.1.7"⟩ "2.10-git" = .ok true ∧
      admits ⟨.atMost, "2.9.1.7"⟩ "2.10-git" = .ok false ∧
      admits ⟨.above, "2.9.1.7"⟩ "2.10.0" = .ok true ∧
      ∀ c, ∃ fault, admits ⟨c, "2.09"⟩ "2.10" = .error fault := by
  have hten : HasKey "2.10-git" (keyOf [2, 10]) :=
    ⟨_, .cons (by decide) (.cons (by decide) .nil), rfl⟩
  have hnine : HasKey "2.9.1.7" (keyOf [2, 9, 1]) :=
    ⟨_, .cons (by decide) (.cons (by decide) (.cons (by decide) .nil)), rfl⟩
  obtain ⟨hadmits, -, -, -, hspelling⟩ := (admits_by_key _ _).1 _ _ hten hnine
  have hbare : Relation.EqvGen Respelled "2.10-git" "2.10" :=
    .symm _ _ (.rel _ _ (Respelled.suffix ['g', 'i', 't']))
  have hpadded : Relation.EqvGen Respelled "2.10" "2.10.0" :=
    .rel _ _ (Respelled.padding (by decide))
  have hzero : '+' ∉ stem "2.09" ∧ ¬ ∃ k, HasKey "2.09" k := by
    refine ⟨by decide, fun ⟨k, h⟩ => ?_⟩
    obtain ⟨a, b, c, -, hb, -, -⟩ := hasKey_iff.mp h
    exact absurd (hb.no_leading_zero (by decide)) (by decide)
  refine ⟨(hadmits .above).trans (by decide), (hadmits .atMost).trans (by decide), ?_,
    (admits_by_key _ _).2 (.inr hzero)⟩
  exact (hspelling .above _ _ (.trans _ _ _ hbare hpadded) (.refl _)).trans
    ((hadmits .above).trans (by decide))

end Bound
end ModuleClosure
