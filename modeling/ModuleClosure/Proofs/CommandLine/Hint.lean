import ModuleClosure.CommandLine.Hint
import ModuleClosure.Proofs.Reading
import ModuleClosure.Proofs.Text.Blank

/-!
# The meaning of hints

A text is a hint if there is a `=` in it and the name before the first one is not blank. Texts are
read if all of them are hints; otherwise the first one that is none decides the failure.
-/
namespace ModuleClosure.CommandLine
open Text

variable {text : String} {texts : List String} {hint : String × String}
  {hints : List (String × String)} {fault : Invalidity}

/-- A text gives a name before its first `=` and an address behind it. -/
def Hints (text : String) (hint : String × String) : Prop :=
  ∃ before after, text.toList = before ++ '=' :: after ∧ '=' ∉ before ∧ trim before ≠ [] ∧
    hint = (String.ofList (trim before), String.ofList (trim after))

def IsHint (text : String) : Prop := ∃ hint, Hints text hint

/-- Why a text is no hint. -/
inductive NoHint (text : String) : Invalidity → Prop
  | withoutAddress (h : '=' ∉ text.toList) : NoHint text (.hintWithoutAddress text)
  | withoutName {before after : List Char} (htext : text.toList = before ++ '=' :: after)
      (hblank : ∀ c ∈ before, isBlank c = true) : NoHint text (.hintWithoutName text)

theorem readHint_of_hints (h : Hints text hint) : readHint text = .ok hint := by
  obtain ⟨before, after, htext, hfirst, hne, rfl⟩ := h
  rw [readHint, cut?_eq_some_iff.mpr ⟨htext, hfirst⟩]
  exact if_neg hne

theorem readHint_of_noHint (h : NoHint text fault) : readHint text = .error fault := by
  cases h with
  | withoutAddress h => rw [readHint, cut?_eq_none_iff.mpr h]
  | withoutName htext hblank =>
    have hfirst : '=' ∉ _ := fun hmem => absurd (hblank _ hmem) (by decide)
    rw [readHint, cut?_eq_some_iff.mpr ⟨htext, hfirst⟩]
    exact if_pos (trim_eq_nil_iff.mpr hblank)

theorem isHint_or_noHint (text : String) : IsHint text ∨ ∃ fault, NoHint text fault := by
  cases hcut : cut? '=' text.toList with
  | none => exact .inr ⟨_, .withoutAddress (cut?_eq_none_iff.mp hcut)⟩
  | some parts =>
    obtain ⟨htext, hfirst⟩ := cut?_eq_some_iff.mp hcut
    by_cases hblank : trim parts.1 = []
    · exact .inr ⟨_, .withoutName htext (trim_eq_nil_iff.mp hblank)⟩
    · exact .inl ⟨_, parts.1, parts.2, htext, hfirst, hblank, rfl⟩

theorem readHint_eq_ok_iff : readHint text = .ok hint ↔ Hints text hint :=
  eq_ok_iff_of_or readHint_of_hints readHint_of_noHint (isHint_or_noHint text)

/-- Texts and the hints they are. -/
abbrev HintsAll (texts : List String) (hints : List (String × String)) : Prop :=
  List.Forall₂ Hints texts hints

theorem readHints_of_hintsAll (h : HintsAll texts hints) : readHints texts = .ok hints := by
  induction h with
  | nil => rfl
  | cons hhint _ ih =>
    rw [readHints, readHint_of_hints hhint, ih]
    rfl

/-- Why the first text that is no hint is none. -/
def FirstNoHint (texts : List String) (fault : Invalidity) : Prop :=
  ∃ before text after, texts = before ++ text :: after ∧ (∀ t ∈ before, IsHint t) ∧
    NoHint text fault

theorem readHints_of_firstNoHint (h : FirstNoHint texts fault) :
    readHints texts = .error fault := by
  obtain ⟨before, text, after, rfl, hbefore, hno⟩ := h
  induction before with
  | nil => rw [List.nil_append, readHints, readHint_of_noHint hno]
  | cons first before ih =>
    obtain ⟨⟨hint, hhint⟩, hbefore⟩ := List.forall_mem_cons.mp hbefore
    rw [List.cons_append, readHints, readHint_of_hints hhint, ih hbefore]
    rfl

theorem hintsAll_or_firstNoHint (texts : List String) :
    (∃ hints, HintsAll texts hints) ∨ ∃ fault, FirstNoHint texts fault := by
  by_cases hall : ∀ text ∈ texts, IsHint text
  · exact .inl (exists_forall₂_iff.mpr hall)
  · obtain ⟨before, text, after, htexts, hbefore, hno⟩ := exists_first_not hall
    obtain ⟨fault, hfault⟩ := (isHint_or_noHint text).resolve_left hno
    exact .inr ⟨fault, before, text, after, htexts, hbefore, hfault⟩

theorem readHints_eq_ok_iff : readHints texts = .ok hints ↔ HintsAll texts hints :=
  eq_ok_iff_of_or readHints_of_hintsAll readHints_of_firstNoHint (hintsAll_or_firstNoHint texts)

theorem readHints_eq_error_iff : readHints texts = .error fault ↔ FirstNoHint texts fault :=
  eq_error_iff_of_or readHints_of_hintsAll readHints_of_firstNoHint
    (hintsAll_or_firstNoHint texts)

end ModuleClosure.CommandLine
