import Mathlib.Data.List.Nodup
import ModuleClosure.Proofs.Closure.Frame
import ModuleClosure.Source.Table

/-!
# Memos that resolutions lead to

Whatever the sources answer, and also after resolutions that fail, the entries of a memo are
complete: what an entry names is an entry too, and brings nothing that is missing from the first.
The invariant is kept because a description is settled only after all it needs, so that its own name
can stand in no earlier entry and not in its own sets.
-/
namespace ModuleClosure

namespace Memo

/-- What the memo holds for the names of a description belongs to the description. -/
structure Covers (memo : Memo) (d : Description) : Prop where
  disjoint : ∀ x ∈ d.depends, x ∉ d.suggests
  depends : ∀ x ∈ d.depends, ∃ e, memo.get? x = some e ∧ ∀ y ∈ e.depends, y ∈ d.depends
  suggests : ∀ x ∈ d.suggests, ∃ e, memo.get? x = some e ∧
    ∀ y ∈ e.depends, y ∈ d.depends ∨ y ∈ d.suggests

/-- The invariant of a memo. -/
structure Sound (memo : Memo) : Prop where
  name : ∀ {k e}, memo.get? k = some e → e.name = k
  apart : ∀ {k e}, memo.get? k = some e → k ∉ e.depends ∧ k ∉ e.suggests
  covers : ∀ {k e}, memo.get? k = some e → memo.Covers e

variable {memo memo' : Memo} {d m : Description}

theorem Covers.mono (h : memo.Covers d)
    (hle : ∀ {n e}, memo.get? n = some e → memo'.get? n = some e) : memo'.Covers d where
  disjoint := h.disjoint
  depends x hx := by
    obtain ⟨e, he, hy⟩ := h.depends x hx
    exact ⟨e, hle he, hy⟩
  suggests x hx := by
    obtain ⟨e, he, hy⟩ := h.suggests x hx
    exact ⟨e, hle he, hy⟩

theorem Covers.settled {n : String} (h : memo.Covers d) (hn : n ∈ d.depends ∨ n ∈ d.suggests) :
    memo.Settled n := by
  rcases hn with hn | hn
  · obtain ⟨e, he, -⟩ := h.depends n hn
    exact ⟨e, he⟩
  · obtain ⟨e, he, -⟩ := h.suggests n hn
    exact ⟨e, he⟩

theorem sound_empty : ({} : Memo).Sound where
  name h := by simp at h
  apart h := by simp at h
  covers h := by simp at h

theorem Sound.congr (h : memo.Sound) (hget : ∀ n, memo'.get? n = memo.get? n) : memo'.Sound where
  name he := h.name (hget _ ▸ he)
  apart he := h.apart (hget _ ▸ he)
  covers he := (h.covers (hget _ ▸ he)).mono fun hn => (hget _).trans hn

/-- The closure over a memo adds only what the entries of the memo cover. -/
theorem Sound.covers_closureOf (h : memo.Sound) (hm : ∀ n ∈ m.needs, memo.Settled n) :
    memo.Covers (memo.closureOf m) where
  disjoint x hx hs := (mem_suggests_closureOf.mp hs).2 hx
  depends x hx := by
    rcases mem_depends_closureOf.mp hx with hd | ⟨z, hz, e, he, hxe⟩
    · obtain ⟨e, he⟩ := hm x (Description.mem_needs.mpr (.inl hd))
      exact ⟨e, he, fun y hy => mem_depends_closureOf.mpr (.inr ⟨x, hd, e, he, hy⟩)⟩
    · obtain ⟨f, hf, hsub⟩ := (h.covers he).depends x hxe
      exact ⟨f, hf, fun y hy => mem_depends_closureOf.mpr (.inr ⟨z, hz, e, he, hsub y hy⟩)⟩
  suggests x hx := by
    -- A name that a suggestion brings is suggested, unless it is depended on.
    have hmem {z e y} (hz : z ∈ m.suggests) (he : memo.get? z = some e)
        (hy : y ∈ e.depends ∨ y ∈ e.suggests) :
        y ∈ (memo.closureOf m).depends ∨ y ∈ (memo.closureOf m).suggests := by
      by_cases hdep : y ∈ (memo.closureOf m).depends
      · exact .inl hdep
      · exact .inr (mem_suggests_closureOf.mpr ⟨.inr ⟨z, hz, e, he, hy⟩, hdep⟩)
    rcases (mem_suggests_closureOf.mp hx).1 with hs | ⟨z, hz, e, he, hxe | hxe⟩
    · obtain ⟨e, he⟩ := hm x (Description.mem_needs.mpr (.inr hs))
      exact ⟨e, he, fun y hy => hmem hs he (.inl hy)⟩
    · obtain ⟨f, hf, hsub⟩ := (h.covers he).depends x hxe
      exact ⟨f, hf, fun y hy => hmem hz he (.inl (hsub y hy))⟩
    · obtain ⟨f, hf, hsub⟩ := (h.covers he).suggests x hxe
      exact ⟨f, hf, fun y hy => hmem hz he (hsub y hy)⟩

theorem Sound.settle (h : memo.Sound) (hd : memo.Covers d) : (memo.settle d).Sound := by
  by_cases hs : memo.Settled d.name
  · rwa [settle_of_settled hs]
  have hle {n e} (he : memo.get? n = some e) : (memo.settle d).get? n = some e := by
    simp [get?_settle, he]
  refine ⟨fun he => ?_, fun he => ?_, fun he => ?_⟩
  · rcases get?_settle_cases he with he | ⟨rfl, rfl⟩
    · exact h.name he
    · rfl
  · rcases get?_settle_cases he with he | ⟨rfl, rfl⟩
    · exact h.apart he
    · exact ⟨fun hn => hs (hd.settled (.inl hn)), fun hn => hs (hd.settled (.inr hn))⟩
  · rcases get?_settle_cases he with he | ⟨rfl, rfl⟩
    · exact (h.covers he).mono hle
    · exact hd.mono hle

end Memo

namespace Closure

variable {σ : Type} {source : Source σ} {nested : Description → Step σ Description}
  {m : Description} {name : String} {names : List String} {p p' : Progress σ}

/-- A way to resolve that keeps the invariant and returns descriptions that the memo covers. -/
def KeepsSound (nested : Description → Step σ Description) : Prop :=
  ∀ ⦃m p o p'⦄, nested m p = (o, p') → p.memo.Sound →
    p'.memo.Sound ∧ ∀ r, o = .ok r → p'.memo.Covers r

theorem Demanded.sound (hn : KeepsSound nested) {o} (h : Demanded source nested name p o p')
    (hp : p.memo.Sound) : p'.memo.Sound := by
  have hreceive {reply} : (p.receive name reply).memo.Sound := hp.congr fun _ => rfl
  cases h with
  | settled => exact hp
  | cycle => exact hp
  | refused => exact hreceive
  | stopped hs hpend hf hr => exact (hn hr hreceive).1
  | answered hs hpend hf hr hd =>
    obtain ⟨hsound, hcov⟩ := hn hr hreceive
    have hcov := hcov _ rfl
    exact hsound.settle ⟨hcov.disjoint, hcov.depends, hcov.suggests⟩

theorem DemandedAll.sound (hn : KeepsSound nested) {o}
    (h : DemandedAll source nested m names p o p') (hp : p.memo.Sound) : p'.memo.Sound := by
  induction h with
  | nil => exact hp
  | stopped hd => exact hd.sound hn hp
  | cons hd hr ih =>
    have hp₁ := hd.sound hn hp
    exact ih hp₁

theorem keepsSound (source : Source σ) (depth : Nat) : KeepsSound (resolveWithin source depth) := by
  induction depth with
  | zero =>
    intro m p o p' h hp
    cases resolved h with
    | cycle => exact ⟨hp, fun _ h => nomatch h⟩
    | tooDeep => exact ⟨hp, fun _ h => nomatch h⟩
  | succ depth ih =>
    intro m p o p' h hp
    have hbegin : (p.begin m).memo.Sound := hp.congr fun _ => rfl
    cases resolved h with
    | cycle => exact ⟨hp, fun _ h => nomatch h⟩
    | stopped hpend ha => exact ⟨(ha.sound ih hbegin).congr fun _ => rfl, fun _ h => nomatch h⟩
    | @done _ ds p₁ hpend ha =>
      have hsound := ha.sound ih hbegin
      have hcov : p₁.memo.Covers (p₁.memo.closureOf m) :=
        hsound.covers_closureOf fun n hmem => ha.settled (framed source depth) hmem
      refine ⟨(hsound.settle hcov).congr fun _ => rfl, fun r hr => ?_⟩
      cases hr
      exact hcov.mono fun he => by simp [Memo.get?_settle, he]

/-- The memos that resolutions lead to from the empty one. Each resolution may have a root and a
source of its own, and may fail. -/
inductive Reachable : Memo → Prop
  | empty : Reachable {}
  | resolve {σ : Type} (source : Source σ) (m : Description) {p : Progress σ}
      (h : Reachable p.memo) : Reachable (resolve source m p).2.memo

theorem Reachable.sound {memo : Memo} (h : Reachable memo) : memo.Sound := by
  induction h with
  | empty => exact Memo.sound_empty
  | resolve source m h ih => exact (keepsSound source (source.reach + 1) rfl ih).1

theorem Reachable.pending {memo : Memo} (h : Reachable memo) : memo.pending = [] := by
  induction h with
  | empty => rfl
  | resolve source m h ih => exact (framed source (source.reach + 1) rfl).1.pending.trans ih

end Closure

namespace Memo

theorem mem_modules {memo : Memo} {d : Description} :
    d ∈ memo.modules ↔ ∃ k, memo.get? k = some d := by
  simp only [modules, get?, List.mem_map, Prod.exists, Std.ExtTreeMap.mem_toList_iff_getElem?_eq_some,
    exists_eq_right]

/-- Entries that are kept under their own names are listed in the order of their names. -/
theorem Sound.modules_ordered {memo : Memo} (h : memo.Sound) :
    (memo.modules.map (·.name)).Pairwise (· < ·) := by
  rw [modules, List.map_map, List.pairwise_map]
  refine memo.settled.ordered_keys_toList.imp_of_mem fun {a b} ha hb hab => ?_
  have hname {x : String × Description} (hx : x ∈ memo.settled.toList) : x.2.name = x.1 :=
    h.name (Std.ExtTreeMap.mem_toList_iff_getElem?_eq_some.mp hx)
  simp only [Function.comp_apply, hname ha, hname hb]
  exact compareOfLessAndEq_eq_lt.mp hab

theorem Sound.nodup_modules {memo : Memo} (h : memo.Sound) : memo.modules.Nodup := by
  have hnames : (memo.modules.map (·.name)).Nodup := by
    apply h.modules_ordered.imp
    rintro a b hlt rfl
    exact String.lt_irrefl a hlt
  exact List.Nodup.of_map _ hnames

end Memo

namespace Closure

/-- Every entry of a memo that resolutions lead to is complete, has its key for a name and is apart
from itself, and the entries are listed once each in ascending order. -/
theorem reachable_entries {memo : Memo} (h : Reachable memo) :
    (∀ k e, memo.get? k = some e →
      e.name = k ∧ (∀ x ∈ e.depends, x ∉ e.suggests) ∧ k ∉ e.depends ∧ k ∉ e.suggests ∧
      (∀ d ∈ e.depends, ∃ f, memo.get? d = some f ∧ ∀ y ∈ f.depends, y ∈ e.depends) ∧
      ∀ s ∈ e.suggests, ∃ f, memo.get? s = some f ∧
        ∀ y ∈ f.depends, y ∈ e.depends ∨ y ∈ e.suggests) ∧
    (memo.modules.map (·.name)).Pairwise (· < ·) ∧ memo.modules.Nodup ∧
    ∀ d, d ∈ memo.modules ↔ ∃ k, memo.get? k = some d := by
  have hsound := h.sound
  refine ⟨fun k e he => ?_, hsound.modules_ordered, hsound.nodup_modules, fun d => Memo.mem_modules⟩
  have hcov := hsound.covers he
  exact ⟨hsound.name he, hcov.disjoint, (hsound.apart he).1, (hsound.apart he).2, hcov.depends,
    hcov.suggests⟩

/-- A table in which the entry for `a` declares another name. -/
def misnamed : NameMap Description :=
  .ofEntries [("a", { name := "b", depends := .ofNames ["c"] }), ("c", { name := "c" })]

/-- The memo after a root that needs `a` and a missing module. -/
def misnamedMemo : Memo :=
  (resolve (Source.table misnamed) { name := "m", depends := .ofNames ["a", "z"] } { state := [] }).2.memo

theorem reachable_entries_misnamed :
    Reachable misnamedMemo ∧ misnamedMemo.modules.map (·.name) = ["a", "b", "c"] ∧
      ∃ e, misnamedMemo.get? "a" = some e ∧ e.name = "a" ∧ "a" ∉ e.depends := by
  have hreach : Reachable misnamedMemo := .resolve _ _ .empty
  refine ⟨hreach, by decide +kernel, ⟨"a", none, none, false, .ofNames ["c"], ∅, ∅⟩, ?_⟩
  have he : misnamedMemo.get? "a" = some ⟨"a", none, none, false, .ofNames ["c"], ∅, ∅⟩ := by
    decide +kernel
  obtain ⟨hname, -, hself, -⟩ := (reachable_entries hreach).1 "a" _ he
  exact ⟨he, hname, hself⟩

end Closure
end ModuleClosure
