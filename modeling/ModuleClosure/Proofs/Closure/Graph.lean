import Mathlib.Data.Set.Basic
import ModuleClosure.Proofs.Closure.Memo
import ModuleClosure.Source.Table

/-!
# The graph of needs

The descriptions of a table are a graph with two kinds of edges. A name is founded if nothing it
leads to is missing or on a cycle; then its closure is given by paths: the dependencies are what
dependencies lead to, the suggestions what dependencies lead to from a chain of suggestions.
-/
namespace ModuleClosure.Graph
open Relation

section Edges
variable (w : NameMap Description)

def Depends (a b : String) : Prop := ∃ d, w[a]? = some d ∧ b ∈ d.depends

def Suggests (a b : String) : Prop := ∃ d, w[a]? = some d ∧ b ∈ d.suggests

def Needs (a b : String) : Prop := Depends w a b ∨ Suggests w a b

/-- One or more suggestions and then any number of dependencies. -/
def Brings (a b : String) : Prop := ∃ s, TransGen (Suggests w) a s ∧ ReflTransGen (Depends w) s b

/-- Every name that is needed is in the table, and none is on a cycle. -/
def Founded (n : String) : Prop :=
  ∀ x, ReflTransGen (Needs w) n x → (∃ d, w[x]? = some d) ∧ ¬ TransGen (Needs w) x x

/-- A description is the closure of the one that the table holds for a name. -/
structure IsClosure (n : String) (r : Description) : Prop where
  unresolved : ∃ m, w[n]? = some m ∧ r = { m with depends := r.depends, suggests := r.suggests }
  depends : ∀ x, x ∈ r.depends ↔ TransGen (Depends w) n x
  suggests : ∀ x, x ∈ r.suggests ↔ Brings w n x ∧ x ∉ r.depends
  founded : Founded w n

end Edges

variable {w : NameMap Description} {memo : Memo} {m r r' : Description} {n x : String}

theorem depends_iff (hw : w[n]? = some m) : Depends w n x ↔ x ∈ m.depends := by
  simp [Depends, hw]

theorem suggests_iff (hw : w[n]? = some m) : Suggests w n x ↔ x ∈ m.suggests := by
  simp [Suggests, hw]

theorem needs_iff (hw : w[n]? = some m) : Needs w n x ↔ x ∈ m.needs := by
  rw [Needs, depends_iff hw, suggests_iff hw, Description.mem_needs]

theorem reaches_iff (hw : w[n]? = some m) :
    ReflTransGen (Needs w) n x ↔ n = x ∨ ∃ y ∈ m.needs, ReflTransGen (Needs w) y x := by
  simp only [ReflTransGen.cases_head_iff (a := n), needs_iff hw]

/-- A cycle through a name would be a cycle through a name that it needs. -/
theorem founded_of_needs (hn : w[n]? = some m) (h : ∀ x, Needs w n x → Founded w x) :
    Founded w n := by
  intro x hx
  rcases hx.cases_head with rfl | ⟨y, hy, hyx⟩
  · refine ⟨⟨m, hn⟩, fun hcycle => ?_⟩
    obtain ⟨y, hy, hback⟩ := TransGen.head'_iff.mp hcycle
    exact (h y hy n hback).2 hcycle
  · exact h y hy x hyx

theorem transGen_depends_iff (hw : w[n]? = some m) :
    TransGen (Depends w) n x ↔
      x ∈ m.depends ∨ ∃ y ∈ m.depends, TransGen (Depends w) y x := by
  simp only [TransGen.head'_iff (r := Depends w) (a := n), depends_iff hw,
    reflTransGen_iff_eq_or_transGen]
  grind

theorem brings_iff (hw : w[n]? = some m) :
    Brings w n x ↔ x ∈ m.suggests ∨
      ∃ y ∈ m.suggests, TransGen (Depends w) y x ∨ Brings w y x := by
  constructor
  · rintro ⟨s, hs, hx⟩
    obtain ⟨y, hy, hys⟩ := TransGen.head'_iff.mp hs
    rw [suggests_iff hw] at hy
    rcases reflTransGen_iff_eq_or_transGen.mp hys with rfl | hys
    · rcases reflTransGen_iff_eq_or_transGen.mp hx with rfl | hx
      · exact .inl hy
      · exact .inr ⟨s, hy, .inl hx⟩
    · exact .inr ⟨y, hy, .inr ⟨s, hys, hx⟩⟩
  · rintro (hx | ⟨y, hy, hx | ⟨s, hs, hx⟩⟩)
    · exact ⟨x, .single ((suggests_iff hw).mpr hx), .refl⟩
    · exact ⟨y, .single ((suggests_iff hw).mpr hy), hx.to_reflTransGen⟩
    · exact ⟨s, .head ((suggests_iff hw).mpr hy) hs, hx⟩

theorem IsClosure.unique (h : IsClosure w n r) (h' : IsClosure w n r') : r = r' := by
  obtain ⟨m, hm, hr⟩ := h.unresolved
  obtain ⟨m', hm', hr'⟩ := h'.unresolved
  cases hm.symm.trans hm'
  have hdep : r.depends = r'.depends := by
    ext x
    rw [h.depends, h'.depends]
  have hsug : r.suggests = r'.suggests := by
    ext x
    rw [h.suggests, h'.suggests, hdep]
  rw [hr, hr', hdep, hsug]

theorem IsClosure.mem_or_iff (h : IsClosure w n r) :
    x ∈ r.depends ∨ x ∈ r.suggests ↔ TransGen (Depends w) n x ∨ Brings w n x := by
  rw [h.suggests, h.depends, or_and_left, and_iff_left (Classical.em _)]

/-- With closures for all that is needed, the closure over the memo is the closure of the name. -/
theorem isClosure_closureOf (hw : w[m.name]? = some m)
    (h : ∀ x ∈ m.needs, ∃ e, memo.get? x = some e ∧ IsClosure w x e) :
    IsClosure w m.name (memo.closureOf m) where
  unresolved := ⟨m, hw, Memo.closureOf_eq⟩
  depends x := by
    rw [Memo.mem_depends_closureOf, transGen_depends_iff hw]
    refine or_congr_right (exists_congr fun y => and_congr_right fun hy => ?_)
    obtain ⟨e, he, hcl⟩ := h y (Description.mem_needs.mpr (.inl hy))
    simp [he, hcl.depends]
  suggests x := by
    rw [Memo.mem_suggests_closureOf, brings_iff hw]
    refine and_congr_left fun _ => or_congr_right (exists_congr fun y => and_congr_right fun hy => ?_)
    obtain ⟨e, he, hcl⟩ := h y (Description.mem_needs.mpr (.inr hy))
    simp [he, hcl.mem_or_iff]
  founded := by
    refine founded_of_needs hw fun x hx => ?_
    obtain ⟨e, -, hcl⟩ := h x ((needs_iff hw).mp hx)
    exact hcl.founded

/-- Asking for a name below pending names fails: the first need in order that is not founded is
pending itself, or missing, or fails in its turn. The set has the names that are complete by then. -/
inductive Fails (w : NameMap Description) : List String → String → Failure → Set String → Prop
  | cycle {path name} (hp : name ∈ path) :
      Fails w path name (.cycle (path.dropWhile (· ≠ name) ++ [name])) ∅
  | missing {path name} (hp : name ∉ path) (hw : w[name]? = none) :
      Fails w path name (.noAddress name) ∅
  | inside {path name m before next after f done} (hp : name ∉ path) (hw : w[name]? = some m)
      (hm : m.needs = before ++ next :: after) (hb : ∀ x ∈ before, Founded w x)
      (hn : Fails w (path ++ [name]) next f done) :
      Fails w path name f ({x | ∃ y ∈ before, ReflTransGen (Needs w) y x} ∪ done)

/-- The pending names lead to the one that is asked for. -/
def LeadsTo (w : NameMap Description) (path : List String) (n : String) : Prop :=
  ∀ q ∈ path, TransGen (Needs w) q n

theorem LeadsTo.step {path : List String} (h : LeadsTo w path n) (hx : Needs w n x) :
    LeadsTo w (path ++ [n]) x := by
  intro q hq
  rcases List.mem_append.mp hq with hq | hq
  · exact (h q hq).tail hx
  · cases List.mem_singleton.mp hq
    exact .single hx

variable {path : List String} {name : String} {f f' : Failure} {done done' : Set String}

/-- A failure has its reason in the graph. -/
theorem Fails.reason (h : Fails w path name f done) (hpath : LeadsTo w path name) :
    (∃ n, f = .noAddress n ∧ ReflTransGen (Needs w) name n ∧ w[n]? = none) ∨
    ∃ c x, f = .cycle c ∧ ReflTransGen (Needs w) name x ∧ TransGen (Needs w) x x := by
  induction h with
  | @cycle path name hp => exact .inr ⟨_, name, rfl, .refl, hpath name hp⟩
  | @missing path name hp hw => exact .inl ⟨name, rfl, .refl, hw⟩
  | @inside path name m before next after f done hp hw hm hb hn ih =>
    have hedge : Needs w name next := (needs_iff hw).mpr (by simp [hm])
    rcases ih (hpath.step hedge) with ⟨n, hf, hreach, hnone⟩ | ⟨c, x, hf, hreach, hcycle⟩
    · exact .inl ⟨n, hf, .head hedge hreach, hnone⟩
    · exact .inr ⟨c, x, hf, .head hedge hreach, hcycle⟩

theorem Fails.not_founded (h : Fails w path name f done) (hpath : LeadsTo w path name) :
    ¬ Founded w name := by
  intro hf
  rcases h.reason hpath with ⟨n, -, hreach, hnone⟩ | ⟨c, x, -, hreach, hcycle⟩
  · obtain ⟨d, hd⟩ := (hf n hreach).1
    cases hd.symm.trans hnone
  · exact (hf x hreach).2 hcycle

private theorem split_unique {α : Type} {a a' b b' : List α} {x x' : α}
    (h : a ++ x :: b = a' ++ x' :: b') (hx : x ∉ a') (hx' : x' ∉ a) : a = a' ∧ x = x' := by
  simp only [List.append_eq_append_iff, List.cons_eq_append_iff, List.cons_eq_cons] at h
  rcases h with ⟨c, rfl, ⟨rfl, rfl, -⟩ | ⟨d, rfl, -⟩⟩ | ⟨c, rfl, ⟨rfl, rfl, -⟩ | ⟨d, rfl, -⟩⟩ <;>
    simp_all

/-- The table and the pending names decide how asking fails, and what is complete by then. -/
theorem Fails.unique (h : Fails w path name f done) (h' : Fails w path name f' done')
    (hpath : LeadsTo w path name) : f = f' ∧ done = done' := by
  induction h generalizing f' done' with
  | cycle hp =>
    cases h' with
    | cycle => exact ⟨rfl, rfl⟩
    | missing hp' => exact absurd hp hp'
    | inside hp' => exact absurd hp hp'
  | missing hp hw =>
    cases h' with
    | cycle hp' => exact absurd hp' hp
    | missing => exact ⟨rfl, rfl⟩
    | inside _ hw' => cases hw.symm.trans hw'
  | @inside path name m before next after f done hp hw hm hb hn ih =>
    cases h' with
    | cycle hp' => exact absurd hp' hp
    | missing _ hw' => cases hw.symm.trans hw'
    | @inside _ _ _ before' next' after' _ done' hp' hw' hm' hb' hn' =>
      cases hw.symm.trans hw'
      have hlead : LeadsTo w (path ++ [name]) next :=
        hpath.step ((needs_iff hw).mpr (by simp [hm]))
      have hlead' : LeadsTo w (path ++ [name]) next' :=
        hpath.step ((needs_iff hw).mpr (by simp [hm']))
      obtain ⟨rfl, rfl⟩ := split_unique (hm.symm.trans hm')
        (fun hmem => hn.not_founded hlead (hb' _ hmem))
        fun hmem => hn'.not_founded hlead' (hb _ hmem)
      obtain ⟨hf, hdone⟩ := ih hn' hlead
      exact ⟨hf, by rw [hdone]⟩

end ModuleClosure.Graph
