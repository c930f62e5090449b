import ModuleClosure.Proofs.Closure.Table

/-!
# Outcomes over a table

A resolution from an empty memo over a table of descriptions succeeds exactly if nothing the root
leads to is missing or on a cycle. The graph also gives the result, and the reason of a failure.
-/
namespace ModuleClosure

namespace Source

/-- A table holds the last description of each name. -/
theorem getElem?_tableOf {ds : List Description} {n : String} :
    (tableOf ds)[n]? = ds.reverse.find? fun d => d.name = n := by
  rw [tableOf, NameMap.ofEntries, Std.ExtTreeMap.ofList_eq_insertMany_empty,
    Std.ExtTreeMap.getElem?_insertMany_list, List.findSomeRev?_eq_findSome?_reverse,
    ← List.map_reverse, List.findSome?_map, List.find?_eq_findSome?_guard]
  simp only [Std.ExtTreeMap.getElem?_empty, Option.or_none]
  congr 1
  funext d
  simp [Option.guard]

end Source

namespace Closure
open Relation ModuleClosure.Graph

variable {modules w : NameMap Description} {m : Description} {p p' : Progress (List String)}

theorem named_tableOf (ds : List Description) : Named (Source.tableOf ds) := by
  intro n d hd
  rw [Source.getElem?_tableOf] at hd
  simpa using List.find?_some hd

theorem declares_table (hmod : Named modules) : Declares (Source.table modules) modules.keys := by
  intro name asked d hd
  rw [fetch_table_eq_ok_iff] at hd
  rw [hmod hd, Std.ExtTreeMap.mem_keys, Std.ExtTreeMap.mem_iff_isSome_getElem?, hd]
  rfl

/-- A resolution that starts with nothing pending follows the graph to an end. -/
theorem resolve_traced {o} (hmod : Named modules) (hserves : Serves modules w [m.name])
    (hw : w[m.name]? = some m) (hp : Faithful w p.memo) (hpend : p.memo.pending = [])
    (h : resolve (Source.table modules) m p = (o, p')) :
    Faithful w p'.memo ∧ Traced w [] m.name p.memo p'.memo o ∧ o ≠ .error .tooDeep := by
  have htraced := follows modules w _ h hw (by simp [hpend]) (by simpa [hpend] using hserves) hp
  have hdeep := resolve_ne_tooDeep (declares_table hmod)
    (Std.ExtTreeMap.length_keys (t := modules)).le hpend h
  exact ⟨htraced.1, hpend ▸ htraced.2, hdeep⟩

/-- The graph of a root: its own lists, and for every other name those of the table. -/
def rooted (modules : NameMap Description) (m : Description) : NameMap Description :=
  modules.insert m.name m

theorem getElem?_rooted_self : (rooted modules m)[m.name]? = some m := by
  simp [rooted]

theorem getElem?_rooted {n : String} (hn : n ≠ m.name) : (rooted modules m)[n]? = modules[n]? := by
  simp [rooted, Std.ExtTreeMap.getElem?_insert, hn.symm]

theorem serves_rooted (hmod : Named modules) : Serves modules (rooted modules m) [m.name] where
  own n d hd := by
    by_cases hn : n = m.name
    · rw [hn, getElem?_rooted_self] at hd
      cases hd
      exact hn.symm
    · rw [getElem?_rooted hn] at hd
      exact hmod hd
  agrees hn := (getElem?_rooted (by simpa using hn)).symm

/-- From an empty memo a resolution that succeeds settles what the root leads to. -/
theorem resolve_settled_iff (ds : List Description) (asked : List String) (m : Description) {r}
    (h : resolve (Source.table (Source.tableOf ds)) m { state := asked } = (.ok r, p')) {x : String} :
    p'.memo.Settled x ↔ ReflTransGen (Needs (rooted (Source.tableOf ds) m)) m.name x := by
  obtain ⟨-, htraced, -⟩ := resolve_traced (named_tableOf ds) (serves_rooted (named_tableOf ds))
    getElem?_rooted_self .empty rfl h
  cases htraced with
  | closed hr hs =>
    rw [hs]
    simp [Memo.Settled]

/-- No name that the root leads to leads back to itself. -/
def Acyclic (modules : NameMap Description) (m : Description) : Prop :=
  ∀ x, ReflTransGen (Needs (rooted modules m)) m.name x → ¬ TransGen (Needs (rooted modules m)) x x

/-- The table holds all other names that the root leads to. -/
def Held (modules : NameMap Description) (m : Description) : Prop :=
  ∀ x, ReflTransGen (Needs (rooted modules m)) m.name x → x ≠ m.name → x ∈ modules

theorem founded_rooted_iff :
    Founded (rooted modules m) m.name ↔ Acyclic modules m ∧ Held modules m := by
  constructor
  · refine fun h => ⟨fun x hx => (h x hx).2, fun x hx hne => ?_⟩
    obtain ⟨d, hd⟩ := (h x hx).1
    rw [getElem?_rooted hne] at hd
    rw [Std.ExtTreeMap.mem_iff_isSome_getElem?, hd]
    rfl
  · rintro ⟨hacyclic, hheld⟩ x hx
    refine ⟨?_, hacyclic x hx⟩
    by_cases hne : x = m.name
    · exact ⟨m, hne ▸ getElem?_rooted_self⟩
    · rw [getElem?_rooted hne]
      exact Option.isSome_iff_exists.mp (Std.ExtTreeMap.mem_iff_isSome_getElem?.mp (hheld x hx hne))

/-- What a root comes to over a table, with an empty memo. -/
def outcomeOver (ds : List Description) (asked : List String) (m : Description) :
    Except Stop Description :=
  (resolve (Source.table (Source.tableOf ds)) m { state := asked }).1

theorem leadsTo_nil {n : String} : LeadsTo w [] n := fun _ h => nomatch h

theorem outcomeOver_traced (ds : List Description) (asked : List String) (m : Description) :
    (∃ memo, Traced (rooted (Source.tableOf ds) m) [] m.name {} memo (outcomeOver ds asked m)) ∧
      outcomeOver ds asked m ≠ .error .tooDeep := by
  have hmod := named_tableOf ds
  obtain ⟨-, htraced, hdeep⟩ := resolve_traced hmod (serves_rooted hmod) getElem?_rooted_self
    (p := { state := asked }) .empty rfl rfl
  exact ⟨⟨_, htraced⟩, hdeep⟩

theorem Traced.cases_of_ne_tooDeep {memo memo' : Memo} {n : String} {o}
    (h : Traced w [] n memo memo' o) (hdeep : o ≠ .error .tooDeep) :
    (∃ r, o = .ok r ∧ IsClosure w n r) ∨
      ∃ f done, o = .error (.failed f) ∧ Fails w [] n f done := by
  cases h with
  | closed hr => exact .inl ⟨_, rfl, hr⟩
  | failed hf => exact .inr ⟨_, _, rfl, hf⟩
  | tooDeep => exact absurd rfl hdeep

theorem not_mem_of_rooted_eq_none {n : String} (h : (rooted modules m)[n]? = none) :
    n ≠ m.name ∧ n ∉ modules := by
  have hne : n ≠ m.name := by
    rintro rfl
    cases getElem?_rooted_self.symm.trans h
  rw [getElem?_rooted hne] at h
  exact ⟨hne, by simp [Std.ExtTreeMap.mem_iff_isSome_getElem?, h]⟩

/-- The graph of a root decides whether there is a closure, which one it is, and what kind of failure
there is otherwise. -/
theorem outcomeOver_graph (ds : List Description) (asked : List String) (m : Description) :
    ((∃ r, outcomeOver ds asked m = .ok r) ↔
      Acyclic (Source.tableOf ds) m ∧ Held (Source.tableOf ds) m) ∧
    (∀ r, outcomeOver ds asked m = .ok r →
      (∀ x, x ∈ r.depends ↔ TransGen (Depends (rooted (Source.tableOf ds) m)) m.name x) ∧
      (∀ x, x ∈ r.suggests ↔ Brings (rooted (Source.tableOf ds) m) m.name x ∧ x ∉ r.depends) ∧
      r = { m with depends := r.depends, suggests := r.suggests }) ∧
    (Acyclic (Source.tableOf ds) m → ¬ Held (Source.tableOf ds) m →
      ∃ n, outcomeOver ds asked m = .error (.failed (.noAddress n)) ∧
        ReflTransGen (Needs (rooted (Source.tableOf ds) m)) m.name n ∧ n ≠ m.name ∧
        n ∉ Source.tableOf ds) ∧
    (Held (Source.tableOf ds) m → ¬ Acyclic (Source.tableOf ds) m →
      ∃ path, outcomeOver ds asked m = .error (.failed (.cycle path))) ∧
    outcomeOver ds asked m ≠ .error .tooDeep := by
  obtain ⟨⟨memo, htraced⟩, hdeep⟩ := outcomeOver_traced ds asked m
  rcases htraced.cases_of_ne_tooDeep hdeep with ⟨r, ho, hr⟩ | ⟨f, done, ho, hf⟩
  · obtain ⟨hacyclic, hheld⟩ := founded_rooted_iff.mp hr.founded
    refine ⟨⟨fun _ => ⟨hacyclic, hheld⟩, fun _ => ⟨r, ho⟩⟩, fun r' h => ?_,
      fun _ h => absurd hheld h, fun _ h => absurd hacyclic h, by simp [ho]⟩
    cases ho.symm.trans h
    obtain ⟨m', hm', hr'⟩ := hr.unresolved
    cases getElem?_rooted_self.symm.trans hm'
    exact ⟨hr.depends, hr.suggests, hr'⟩
  · have hnot : ¬ (Acyclic (Source.tableOf ds) m ∧ Held (Source.tableOf ds) m) :=
      mt founded_rooted_iff.mpr (hf.not_founded leadsTo_nil)
    refine ⟨⟨fun ⟨r, h⟩ => ?_, fun h => absurd h hnot⟩, fun r h => ?_, fun hacyclic _ => ?_,
      fun hheld _ => ?_, by simp [ho]⟩
    · cases ho.symm.trans h
    · cases ho.symm.trans h
    · rcases hf.reason leadsTo_nil with ⟨n, rfl, hn, hnone⟩ | ⟨path, x, rfl, hx, hcycle⟩
      · exact ⟨n, ho, hn, not_mem_of_rooted_eq_none hnone⟩
      · exact absurd hcycle (hacyclic x hx)
    · rcases hf.reason leadsTo_nil with ⟨n, rfl, hn, hnone⟩ | ⟨path, x, rfl, hx, hcycle⟩
      · obtain ⟨hne, hmissing⟩ := not_mem_of_rooted_eq_none hnone
        exact absurd (hheld n hn hne) hmissing
      · exact ⟨path, ho⟩

/-- The suggestion of a dependency is dropped, that of a suggestion is kept. -/
def layered : List Description :=
  [{ name := "a", depends := .ofNames ["b"], suggests := .ofNames ["e"] }, { name := "b" },
    { name := "c", depends := .ofNames ["b"], suggests := .ofNames ["d"] }, { name := "d" },
    { name := "e" }]

def layeredRoot : Description :=
  { name := "m", depends := .ofNames ["a"], suggests := .ofNames ["c"] }

theorem outcomeOver_graph_layered :
    outcomeOver layered [] layeredRoot =
      .ok { layeredRoot with depends := .ofNames ["b", "a"], suggests := .ofNames ["d", "c"] } ∧
    Acyclic (Source.tableOf layered) layeredRoot ∧ Held (Source.tableOf layered) layeredRoot ∧
    TransGen (Depends (rooted (Source.tableOf layered) layeredRoot)) "m" "b" ∧
    Brings (rooted (Source.tableOf layered) layeredRoot) "m" "d" := by
  have ho : outcomeOver layered [] layeredRoot =
      .ok { layeredRoot with depends := .ofNames ["b", "a"], suggests := .ofNames ["d", "c"] } := by
    decide +kernel
  obtain ⟨hok, hclosure, -⟩ := outcomeOver_graph layered [] layeredRoot
  obtain ⟨hacyclic, hheld⟩ := hok.mp ⟨_, ho⟩
  obtain ⟨hdep, hsug, -⟩ := hclosure _ ho
  exact ⟨ho, hacyclic, hheld, (hdep "b").mp (by decide), ((hsug "d").mp (by decide)).1⟩

end Closure
end ModuleClosure
