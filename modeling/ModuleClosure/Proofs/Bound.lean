import Mathlib.Data.List.Infix
import ModuleClosure.Bound
import ModuleClosure.Proofs.Text.Run

/-!
# The meaning of version bounds

A bound is read from the longest sign that its text starts with and from the version behind it. Only
a sign of two characters with no version behind it gives way: its first character is then the sign
and its second the version.
-/
namespace ModuleClosure.Bound
open Text

variable {text sign rest version : List Char} {c d : Comparison} {b : Bound}

/-- The longest sign that a text starts with, and what follows it. -/
structure LongestSign (text sign rest : List Char) (c : Comparison) : Prop where
  text_eq : text = sign ++ rest
  denotes : Comparison.ofText? (String.ofList sign) = some c
  longest : ∀ other, other <+: text →
    (∃ d, Comparison.ofText? (String.ofList other) = some d) → other.length ≤ sign.length

/-- The bound that a text states: the longest sign at its start, and some version behind it. -/
def States (text : List Char) (b : Bound) : Prop :=
  ∃ sign rest, LongestSign (trim text) sign rest b.comparison ∧ trim rest ≠ [] ∧
    b.version = String.ofList (trim rest)

/-- A sign of two characters and nothing else. -/
def IsDoubleSign (text : List Char) : Prop :=
  trim text = ['>', '='] ∨ trim text = ['<', '='] ∨ trim text = ['=', '=']

instance : Decidable (IsDoubleSign text) := inferInstanceAs (Decidable (_ ∨ _ ∨ _))

/-- The first character of a text is taken for the sign and the second, a `=`, for the version. -/
def Splits (text : List Char) (b : Bound) : Prop :=
  trim text = b.comparison.symbol.toList ++ ['='] ∧ b.version = "="

section Signs

theorem mem_signs_toList_iff {text : String} :
    (text.toList, c) ∈ signs ↔ Comparison.ofText? text = some c := by
  constructor
  · intro h
    have hall : ∀ s ∈ signs, Comparison.ofText? (String.ofList s.1) = some s.2 := by decide
    simpa using hall _ h
  · intro h
    unfold Comparison.ofText? at h
    split_ifs at h with h1 h2 h3 h4 h5
    · cases h; subst h1; decide
    · cases h; subst h2; decide
    · cases h; subst h3; decide
    · cases h; subst h4; decide
    · cases h; rcases h5 with rfl | rfl <;> decide

/-- The signs are the texts of comparisons. -/
theorem mem_signs_iff : (sign, c) ∈ signs ↔ Comparison.ofText? (String.ofList sign) = some c := by
  rw [← mem_signs_toList_iff, String.toList_ofList]

/-- A sign that another one starts with is the symbol of its comparison, and the other one is
longer by a `=`. -/
theorem double_of_mem_signs : ∀ s ∈ signs, ∀ t ∈ signs, s.1 <+: t.1 → s.1.length < t.1.length →
    s.1 = s.2.symbol.toList ∧ t.1 = s.1 ++ ['='] ∧
      (t.1 = ['>', '='] ∨ t.1 = ['<', '='] ∨ t.1 = ['=', '=']) := by
  decide

end Signs

/-- The version behind a sign of a trimmed text: one word, and all that follows the sign. -/
theorem versionAfter?_eq_some_iff : versionAfter? sign (trim text) = some version ↔
    ∃ rest, trim text = sign ++ rest ∧ version = trim rest ∧ version ≠ [] ∧
      ∀ c ∈ version, isBlank c = false := by
  have htrim {rest : List Char} (h : trim text = sign ++ rest) : trim rest = trimStart rest :=
    trim_of_suffix ⟨sign, h.symm⟩
  rw [versionAfter?, Option.bind_eq_some_iff]
  constructor
  · rintro ⟨rest, hrest, hversion⟩
    have heq := after?_eq_some_iff.mp hrest
    dsimp only at hversion
    split_ifs at hversion with hword
    obtain ⟨hne, hblank⟩ := not_or.mp hword
    cases hversion
    exact ⟨rest, heq, (htrim heq).symm, hne, by simpa using hblank⟩
  · rintro ⟨rest, heq, rfl, hne, hblank⟩
    refine ⟨rest, after?_eq_some_iff.mpr heq, ?_⟩
    rw [← htrim heq]
    exact if_neg (not_or.mpr ⟨hne, by simpa using hblank⟩)

/-- A trimmed text does not end with blanks behind a sign. -/
theorem eq_nil_of_trim_eq_nil (h : trim text = sign ++ rest) (hrest : trim rest = []) :
    rest = [] :=
  (trimEnd_of_suffix ⟨sign, h.symm⟩).symm.trans
    (List.rdropWhile_eq_nil_iff.mpr (trim_eq_nil_iff.mp hrest))

section Meaning

theorem LongestSign.unique {sign' rest' : List Char} {c' : Comparison}
    (h : LongestSign text sign rest c) (h' : LongestSign text sign' rest' c') :
    sign = sign' ∧ rest = rest' ∧ c = c' := by
  have hle := h.longest sign' ⟨rest', h'.text_eq.symm⟩ ⟨c', h'.denotes⟩
  have hge := h'.longest sign ⟨rest, h.text_eq.symm⟩ ⟨c, h.denotes⟩
  obtain ⟨rfl, rfl⟩ := List.append_inj (h.text_eq.symm.trans h'.text_eq) (Nat.le_antisymm hge hle)
  exact ⟨rfl, rfl, Option.some.inj (h.denotes.symm.trans h'.denotes)⟩

theorem States.unique {b' : Bound} (h : States text b) (h' : States text b') : b = b' := by
  obtain ⟨sign, rest, hsign, -, hversion⟩ := h
  obtain ⟨sign', rest', hsign', -, hversion'⟩ := h'
  obtain ⟨rfl, rfl, hc⟩ := hsign.unique hsign'
  cases b
  cases b'
  simp_all

/-- A sign alone states no bound. -/
theorem not_states_of_sign (h : ∃ c, Comparison.ofText? (String.ofList (trim text)) = some c) :
    ¬ States text b := by
  rintro ⟨sign, rest, hsign, hne, -⟩
  have hlength := hsign.longest (trim text) List.prefix_rfl h
  have hrest : rest = [] := by
    rw [hsign.text_eq, List.length_append] at hlength
    exact List.eq_nil_of_length_eq_zero (by omega)
  rw [hrest] at hne
  exact hne rfl

theorem IsDoubleSign.isSign (h : IsDoubleSign text) :
    ∃ c, Comparison.ofText? (String.ofList (trim text)) = some c := by
  rcases h with h | h | h <;> rw [h]
  · exact ⟨.atLeast, by decide⟩
  · exact ⟨.atMost, by decide⟩
  · exact ⟨.equal, by decide⟩

/-- Longer signs are tried before shorter ones. -/
theorem mem_before_of_lt {before after : List (List Char × Comparison)}
    {s t : List Char × Comparison} (hsigns : signs = before ++ s :: after) (ht : t ∈ signs)
    (hlt : s.1.length < t.1.length) : t ∈ before := by
  have hdescending : signs.Pairwise fun s t => t.1.length ≤ s.1.length := by decide
  rw [hsigns, List.pairwise_append, List.pairwise_cons] at hdescending
  rw [hsigns] at ht
  rcases List.mem_append.mp ht with ht | ht
  · exact ht
  · rcases List.mem_cons.mp ht with rfl | ht
    · exact absurd hlt (lt_irrefl _)
    · exact absurd (hdescending.2.1.1 t ht) (not_le.mpr hlt)

/-- A sign has no version behind it only if nothing comes behind it, or several words. -/
theorem eq_nil_of_versionAfter?_eq_none (h : trim text = sign ++ rest)
    (hnone : versionAfter? sign (trim text) = none) (hblank : ∀ c ∈ rest, isBlank c = false) :
    rest = [] := by
  by_contra hne
  have hsome : versionAfter? sign (trim text) = some (trim rest) := by
    refine versionAfter?_eq_some_iff.mpr ⟨rest, h, rfl, fun hnil => ?_, fun c hc => ?_⟩
    · exact hne (eq_nil_of_trim_eq_nil h hnil)
    · rw [trim_of_suffix ⟨sign, h.symm⟩] at hc
      exact hblank c ((List.dropWhile_suffix isBlank).subset hc)
  rw [hnone] at hsome
  cases hsome

/-- A bound is read from the longest sign, unless this one is longer than another one by a `=` and
nothing comes behind it. -/
theorem states_or_splits (h : ofText? text = some b) :
    States text b ∨ IsDoubleSign text ∧ Splits text b := by
  obtain ⟨before, ⟨sign, c⟩, after, hsigns, hsome, hbefore⟩ := List.findSome?_eq_some_iff.mp h
  obtain ⟨version, hversion, rfl⟩ := Option.map_eq_some_iff.mp hsome
  obtain ⟨rest, htext, rfl, hne, hblank⟩ := versionAfter?_eq_some_iff.mp hversion
  have hmem : (sign, c) ∈ signs := by simp [hsigns]
  by_cases hlongest : ∀ t ∈ signs, t.1 <+: trim text → t.1.length ≤ sign.length
  · have hsign : LongestSign (trim text) sign rest c :=
      ⟨htext, mem_signs_iff.mp hmem, fun other hother ⟨d, hd⟩ =>
        hlongest (other, d) (mem_signs_iff.mpr hd) hother⟩
    exact .inl ⟨sign, rest, hsign, hne, rfl⟩
  · simp only [not_forall, not_le] at hlongest
    obtain ⟨t, ht, ⟨r, hr⟩, hlt⟩ := hlongest
    have hstart : sign <+: t.1 :=
      List.prefix_of_prefix_length_le ⟨rest, htext.symm⟩ ⟨r, hr⟩ hlt.le
    obtain ⟨hsymbol, hext, hdouble⟩ := double_of_mem_signs (sign, c) hmem t ht hstart hlt
    -- The version that was found begins with the rest of the longer sign.
    have hrest : rest = '=' :: r := by
      refine List.append_cancel_left (?_ : sign ++ rest = sign ++ '=' :: r)
      rw [← htext, ← hr, hext, List.append_assoc, List.singleton_append]
    have htrim : trim rest = '=' :: r := by
      rw [trim_of_suffix ⟨sign, htext.symm⟩, hrest]
      exact (stops_cons.mpr rfl).trimStart_eq
    -- The longer sign was tried before, and had no version.
    have hr' : r = [] := by
      refine eq_nil_of_versionAfter?_eq_none hr.symm ?_ fun x hx => hblank x ?_
      · simpa using hbefore t (mem_before_of_lt hsigns ht hlt)
      · exact htrim ▸ List.mem_cons_of_mem _ hx
    subst hr'
    rw [List.append_nil] at hr
    refine .inr ⟨?_, ?_, ?_⟩
    · rwa [IsDoubleSign, ← hr]
    · rw [← hr, hext, hsymbol]
    · rw [htrim]

theorem ofText?_of_states (h : States text b) (hblank : ∀ c ∈ b.version.toList, isBlank c = false) :
    ofText? text = some b := by
  obtain ⟨sign, rest, hsign, hne, hversion⟩ := h
  have hsome : versionAfter? sign (trim text) = some (trim rest) :=
    versionAfter?_eq_some_iff.mpr
      ⟨rest, hsign.text_eq, rfl, hne, by rwa [hversion, String.toList_ofList] at hblank⟩
  have hread : (ofText? text).isSome := by
    rw [ofText?, List.findSome?_isSome_iff]
    exact ⟨(sign, b.comparison), mem_signs_iff.mpr hsign.denotes, by simp [hsome]⟩
  obtain ⟨b', hb'⟩ := Option.isSome_iff_exists.mp hread
  have hstates : States text b := ⟨sign, rest, hsign, hne, hversion⟩
  rcases states_or_splits hb' with h | ⟨hdouble, -⟩
  · rw [hb', h.unique hstates]
  · exact absurd hstates (not_states_of_sign hdouble.isSign)

/-- The version is one word of the text. -/
theorem version_of_ofText? (h : ofText? text = some b) :
    b.version.toList ≠ [] ∧ ∀ c ∈ b.version.toList, isBlank c = false ∧ c ∈ text := by
  obtain ⟨sign, -, hsome⟩ := List.exists_of_findSome?_eq_some h
  obtain ⟨version, hversion, rfl⟩ := Option.map_eq_some_iff.mp hsome
  obtain ⟨rest, htext, rfl, hne, hblank⟩ := versionAfter?_eq_some_iff.mp hversion
  rw [String.toList_ofList]
  refine ⟨hne, fun c hc => ⟨hblank c hc, mem_of_mem_trim ?_⟩⟩
  rw [htext]
  exact List.mem_append_right sign.1 (mem_of_mem_trim hc)

/-- A bound is read from its sign and its version with a blank between them. -/
theorem ofText?_symbol_version (hne : b.version.toList ≠ [])
    (hblank : ∀ c ∈ b.version.toList, isBlank c = false) :
    ofText? (b.comparison.symbol.toList ++ ' ' :: b.version.toList) = some b := by
  obtain ⟨c, version⟩ := b
  have hlast (hne : version.toList ≠ []) : isBlank (version.toList.getLast hne) = false :=
    hblank _ (List.getLast_mem hne)
  have htrim : trim (c.symbol.toList ++ ' ' :: version.toList) =
      c.symbol.toList ++ ' ' :: version.toList := by
    refine trim_eq_self ?_ fun _ => ?_
    · cases c <;> exact stops_cons.mpr rfl
    · have hsuffix : version.toList <:+ c.symbol.toList ++ ' ' :: version.toList :=
        ⟨c.symbol.toList ++ [' '], by simp⟩
      rw [← hsuffix.getLast hne]
      exact hlast hne
  have hversion : trim (' ' :: version.toList) = version.toList := by
    have hstops : Stops isBlank version.toList := fun c hc => hblank c (List.mem_of_mem_head? hc)
    calc trim (' ' :: version.toList)
      _ = trim version.toList := trim_append_left (t := [' ']) (List.forall_mem_singleton.mpr rfl)
      _ = version.toList := trim_eq_self hstops hlast
  have hsign : LongestSign (trim (c.symbol.toList ++ ' ' :: version.toList)) c.symbol.toList
      (' ' :: version.toList) c := by
    refine ⟨htrim, ?_, fun other hother ⟨d, hd⟩ => ?_⟩
    · rw [String.ofList_toList]
      exact Comparison.ofText?_symbol c
    · -- A longer sign would take the blank in.
      have hword : ∀ s ∈ signs, ' ' ∉ s.1 := by decide
      by_contra hlt
      have hstart : c.symbol.toList ++ [' '] <+: other := by
        rw [htrim] at hother
        exact List.prefix_of_prefix_length_le ⟨version.toList, by simp⟩ hother (by simp; omega)
      exact hword (other, d) (mem_signs_iff.mpr hd) (hstart.subset (by simp))
  refine ofText?_of_states ⟨_, _, hsign, ?_, ?_⟩ hblank
  · rwa [hversion]
  · rw [hversion, String.ofList_toList]

end Meaning

end ModuleClosure.Bound
