import ModuleClosure.Proofs.Bound
import ModuleClosure.Proofs.Dependency.List

/-!
# Writing and reading dependency lists

A list is written with single blanks between its entries and before their bounds. Reading it gives
the entries back if their names and versions are words; and so they are in every list that is read.
-/
namespace ModuleClosure.Dependency
open Text

/-- An entry whose name and version are words. -/
structure Writable (d : Dependency) : Prop where
  name : IsName d.name.toList
  version : ∀ b ∈ d.bound, IsName b.version.toList

instance (d : Dependency) : Decidable (Writable d) :=
  decidable_of_iff (IsName d.name.toList ∧ ∀ b ∈ d.bound, IsName b.version.toList)
    ⟨fun h => ⟨h.1, h.2⟩, fun h => ⟨h.1, h.2⟩⟩

variable {s inner : List Char} {d : Dependency} {ds : List Dependency} {b : Bound}

section Reading

theorem isName_version (hinner : IsInner inner) (hb : Bound.ofText? inner = some b) :
    IsName b.version.toList := by
  obtain ⟨hne, hversion⟩ := Bound.version_of_ofText? hb
  refine ⟨hne, fun c hc => ?_⟩
  obtain ⟨hblank, hmem⟩ := hversion c hc
  exact isNameChar_eq_true_iff.mpr ⟨hblank, hinner c hmem⟩

/-- The entries of a list that is read can be written. -/
theorem Listed.writable (h : Listed s ds) : ∀ d ∈ ds, Writable d := by
  induction h with
  | nil _ => exact nofun
  | @plain gap name rest ds hgap hname hrest h ih =>
    refine List.forall_mem_cons.mpr ⟨⟨?_, nofun⟩, ih⟩
    rwa [String.toList_ofList]
  | @bounded gap name between inner rest b ds hgap hname hbetween hinner hb h ih =>
    refine List.forall_mem_cons.mpr ⟨⟨?_, ?_⟩, ih⟩
    · rwa [String.toList_ofList]
    · rintro _ ⟨⟩
      exact isName_version hinner hb

end Reading

section Writing

theorem isInner_text (b : Bound) (h : IsName b.version.toList) :
    IsInner (b.comparison.symbol.toList ++ ' ' :: b.version.toList) := by
  have hsymbol : IsInner b.comparison.symbol.toList := by
    cases b.comparison <;> decide
  refine List.forall_mem_append.mpr ⟨hsymbol, List.forall_mem_cons.mpr ⟨rfl, fun c hc => ?_⟩⟩
  exact (isNameChar_eq_true_iff.mp (h.2 c hc)).2

/-- An entry is read from its text. -/
theorem Writable.listed (hd : Writable d) (hs : Stops isNameChar s) (h : Listed s ds) :
    Listed (d.text.toList ++ s) (d :: ds) := by
  obtain ⟨name, bound⟩ := d
  have hnil : IsGap [] := nofun
  have hname := hd.name
  cases bound with
  | none =>
    have := Listed.plain hnil hd.name hs h
    simpa [text] using this
  | some b =>
    have hgap : IsGap [' '] := by decide
    have := Listed.bounded hnil hd.name hgap (isInner_text b (hd.version b rfl))
      (Bound.ofText?_symbol_version (hd.version b rfl).1 (hd.version b rfl).not_isBlank) h
    simpa [text, Bound.text] using this

theorem listed_listText (h : ∀ d ∈ ds, Writable d) : Listed (listText ds).toList ds := by
  induction ds with
  | nil => exact .nil nofun
  | cons d ds ih =>
    obtain ⟨hd, hds⟩ := List.forall_mem_cons.mp h
    cases ds with
    | nil => simpa [listText] using hd.listed stops_nil (.nil nofun)
    | cons e ds =>
      have hgap : IsGap [' '] := by decide
      have hrest : Listed (' ' :: (listText (e :: ds)).toList) (e :: ds) :=
        (ih hds).behind_gap hgap
      simpa [listText] using hd.listed (stops_cons.mpr rfl) hrest

end Writing

/-- A list of words with words for versions is read as it was written; and what is read can be
written and read again. -/
theorem readList_listText (number : Nat) :
    (∀ ds, (∀ d ∈ ds, Writable d) → Description.readList number (listText ds) = .ok ds) ∧
      ∀ m value ds, Description.readList m value = .ok ds →
        Description.readList number (listText ds) = .ok ds := by
  have hwrite {ds : List Dependency} (h : ∀ d ∈ ds, Writable d) :
      Description.readList number (listText ds) = .ok ds :=
    readList_line_eq_ok_iff.mpr (listed_listText h)
  exact ⟨fun ds => hwrite, fun m value ds h => hwrite (readList_line_eq_ok_iff.mp h).writable⟩

theorem readList_listText_signs :
    listText [⟨"a", some ⟨.above, "=1"⟩⟩, ⟨"<", none⟩, ⟨"b", some ⟨.equal, "="⟩⟩] =
        "a (> =1) < b (= =)" ∧
      Description.readList 1 "a (> =1) < b (= =)" =
        .ok [⟨"a", some ⟨.above, "=1"⟩⟩, ⟨"<", none⟩, ⟨"b", some ⟨.equal, "="⟩⟩] ∧
      Description.readList 2 "a(>= >1 )b" = .ok [⟨"a", some ⟨.atLeast, ">1"⟩⟩, ⟨"b", none⟩] ∧
      Description.readList 1 (listText [⟨"a", some ⟨.atLeast, ">1"⟩⟩, ⟨"b", none⟩]) =
        .ok [⟨"a", some ⟨.atLeast, ">1"⟩⟩, ⟨"b", none⟩] := by
  have htext : listText [⟨"a", some ⟨.above, "=1"⟩⟩, ⟨"<", none⟩, ⟨"b", some ⟨.equal, "="⟩⟩] =
      "a (> =1) < b (= =)" := by decide +kernel
  have hread : Description.readList 2 "a(>= >1 )b" =
      .ok [⟨"a", some ⟨.atLeast, ">1"⟩⟩, ⟨"b", none⟩] := by decide +kernel
  refine ⟨htext, ?_, hread, (readList_listText 1).2 2 _ _ hread⟩
  rw [← htext]
  exact (readList_listText 1).1 _ (by decide)

end ModuleClosure.Dependency
