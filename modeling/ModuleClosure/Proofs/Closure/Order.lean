import ModuleClosure.Proofs.Closure.Outcome

/-!
# Resolutions that share a memo

The descriptions of a table may be resolved one after another over one memo. Each comes to what it
comes to with an empty memo, a failure included, and what is settled in the end does not depend on
the order.
-/
namespace ModuleClosure.Closure
open Relation ModuleClosure.Graph

/-- Resolves descriptions in order over one memo, and keeps the outcome of each. -/
def resolveEach {σ : Type} (source : Source σ) :
    List Description → Progress σ → List (Except Stop Description) × Progress σ
  | [], p => ([], p)
  | m :: ms, p =>
    let (o, p) := resolve source m p
    let (os, p) := resolveEach source ms p
    (o :: os, p)

variable {modules w : NameMap Description} {memo memo' memo₁ memo₁' : Memo} {m : Description}
  {n x : String}

/-- The names that are complete after asking for a name with nothing pending. -/
def Gains (w : NameMap Description) (n : String) : Set String :=
  {x | Founded w n ∧ ReflTransGen (Needs w) n x ∨ ∃ f done, Fails w [] n f done ∧ x ∈ done}

theorem Traced.settled_iff {o} (h : Traced w [] n memo memo' o) (hdeep : o ≠ .error .tooDeep) :
    memo'.Settled x ↔ memo.Settled x ∨ x ∈ Gains w n := by
  cases h with
  | closed hr hs =>
    rw [hs]
    refine or_congr_right ⟨fun hx => .inl ⟨hr.founded, hx⟩, ?_⟩
    rintro (⟨-, hx⟩ | ⟨f, done, hf, -⟩)
    · exact hx
    · exact absurd hr.founded (hf.not_founded leadsTo_nil)
  | @failed f done hf hs =>
    rw [hs]
    refine or_congr_right ⟨fun hx => .inr ⟨f, done, hf, hx⟩, ?_⟩
    rintro (⟨hfounded, -⟩ | ⟨f', done', hf', hx⟩)
    · exact absurd hfounded (hf.not_founded leadsTo_nil)
    · rwa [(hf.unique hf' leadsTo_nil).2]
  | tooDeep => exact absurd rfl hdeep

/-- The graph decides the outcome, whatever the memo holds. -/
theorem Traced.outcome_unique {o o'} (h : Traced w [] n memo memo' o) (hdeep : o ≠ .error .tooDeep)
    (h' : Traced w [] n memo₁ memo₁' o') (hdeep' : o' ≠ .error .tooDeep) : o = o' := by
  rcases h.cases_of_ne_tooDeep hdeep with ⟨r, rfl, hr⟩ | ⟨f, done, rfl, hf⟩ <;>
    rcases h'.cases_of_ne_tooDeep hdeep' with ⟨r', rfl, hr'⟩ | ⟨f', done', rfl, hf'⟩
  · rw [hr.unique hr']
  · exact absurd hr.founded (hf'.not_founded leadsTo_nil)
  · exact absurd hr'.founded (hf.not_founded leadsTo_nil)
  · rw [(hf.unique hf' leadsTo_nil).1]

theorem rooted_of_getElem? (h : modules[m.name]? = some m) : rooted modules m = modules := by
  ext n : 1
  by_cases hn : n = m.name
  · rw [hn, getElem?_rooted_self, h]
  · exact getElem?_rooted hn

/-- Two memos of closures are the same if they hold the same names. -/
theorem Faithful.settled_eq (h : Faithful w memo) (h' : Faithful w memo')
    (hs : ∀ x, memo.Settled x ↔ memo'.Settled x) : memo.settled = memo'.settled := by
  ext x : 1
  change memo.get? x = memo'.get? x
  by_cases hx : memo.Settled x
  · obtain ⟨e, he⟩ := hx
    obtain ⟨e', he'⟩ := (hs x).mp ⟨e, he⟩
    rw [he, he', (h.entry he).unique (h'.entry he')]
  · rw [Memo.not_settled.mp hx, Memo.not_settled.mp (mt (hs x).mpr hx)]

/-- An entry is what the description of its name comes to with an empty memo. -/
theorem Faithful.outcomeOver_eq {ds : List Description} {e : Description} (asked : List String)
    (h : Faithful (Source.tableOf ds) memo) (he : memo.get? n = some e) :
    ∃ d, (Source.tableOf ds)[n]? = some d ∧ outcomeOver ds asked d = .ok e := by
  obtain ⟨d, hd, -⟩ := (h.entry he).unresolved
  obtain rfl := named_tableOf ds hd
  obtain ⟨⟨memo, hfresh⟩, hdeep⟩ := outcomeOver_traced ds asked d
  rw [rooted_of_getElem? hd] at hfresh
  refine ⟨d, hd, ?_⟩
  rcases hfresh.cases_of_ne_tooDeep hdeep with ⟨r, ho, hr⟩ | ⟨f, done, -, hf⟩
  · rw [ho, hr.unique (h.entry he)]
  · exact absurd (h.entry he).founded (hf.not_founded leadsTo_nil)

section Runs

variable (ds ms : List Description) {p : Progress (List String)}

/-- Each description of a table comes to what it comes to with an empty memo. -/
theorem resolveEach_faithful (asked : List String) (hfaith : Faithful (Source.tableOf ds) p.memo)
    (hpend : p.memo.pending = []) (hms : ∀ m ∈ ms, (Source.tableOf ds)[m.name]? = some m) :
    (resolveEach (Source.table (Source.tableOf ds)) ms p).1 = ms.map (outcomeOver ds asked) ∧
    Faithful (Source.tableOf ds) (resolveEach (Source.table (Source.tableOf ds)) ms p).2.memo ∧
    ∀ x, (resolveEach (Source.table (Source.tableOf ds)) ms p).2.memo.Settled x ↔
      p.memo.Settled x ∨ ∃ m ∈ ms, x ∈ Gains (Source.tableOf ds) m.name := by
  induction ms generalizing p with
  | nil => exact ⟨rfl, hfaith, by simp [resolveEach]⟩
  | cons m ms ih =>
    obtain ⟨hm, hms⟩ := List.forall_mem_cons.mp hms
    have hmod := named_tableOf ds
    rcases h : resolve (Source.table (Source.tableOf ds)) m p with ⟨o, p₁⟩
    obtain ⟨hfaith₁, htraced, hdeep⟩ :=
      resolve_traced hmod ⟨hmod, fun _ => rfl⟩ hm hfaith hpend h
    have hpend₁ : p₁.memo.pending = [] := (framed _ _ h).1.pending.trans hpend
    obtain ⟨⟨memo, hfresh⟩, hdeep'⟩ := outcomeOver_traced ds asked m
    rw [rooted_of_getElem? hm] at hfresh
    obtain ⟨houtcomes, hfaith', hs⟩ := ih hfaith₁ hpend₁ hms
    simp only [resolveEach, h]
    refine ⟨?_, hfaith', fun x => ?_⟩
    · rw [houtcomes, htraced.outcome_unique hdeep hfresh hdeep', List.map_cons]
    · rw [hs, htraced.settled_iff hdeep, List.exists_mem_cons_iff, or_assoc]

/-- Over a shared memo, that is empty at first, each description of a table comes to what it comes
to with a memo of its own. At any time the memo holds such outcomes only, and what it holds in the
end is the same for every order. -/
theorem resolveEach_table (asked asked' : List String)
    (hms : ∀ m ∈ ms, (Source.tableOf ds)[m.name]? = some m) :
    (resolveEach (Source.table (Source.tableOf ds)) ms { state := asked }).1 =
      ms.map (outcomeOver ds asked') ∧
    (∀ k n e, (resolveEach (Source.table (Source.tableOf ds)) (ms.take k)
        { state := asked }).2.memo.get? n = some e →
      ∃ d, (Source.tableOf ds)[n]? = some d ∧ outcomeOver ds asked' d = .ok e) ∧
    ∀ ms', ms.Perm ms' →
      (resolveEach (Source.table (Source.tableOf ds)) ms { state := asked }).2.memo.settled =
        (resolveEach (Source.table (Source.tableOf ds)) ms' { state := asked }).2.memo.settled := by
  have hrun (ms : List Description) :=
    resolveEach_faithful ds ms (p := { state := asked }) asked' .empty rfl
  obtain ⟨houtcomes, hfaith, hs⟩ := hrun ms hms
  refine ⟨houtcomes, fun k n e he => ?_, fun ms' hperm => ?_⟩
  · obtain ⟨-, hfaith, -⟩ := hrun (ms.take k) fun m hm => hms m (List.mem_of_mem_take hm)
    exact hfaith.outcomeOver_eq asked' he
  · obtain ⟨-, hfaith', hs'⟩ := hrun ms' fun m hm => hms m (hperm.mem_iff.mpr hm)
    refine hfaith.settled_eq hfaith' fun x => ?_
    rw [hs, hs']
    simp only [hperm.mem_iff]

/-- Descriptions of which some need a missing module or one another. -/
def tangled : List Description :=
  [{ name := "a", depends := .ofNames ["b"], suggests := .ofNames ["z"] }, { name := "b" },
    { name := "c", depends := .ofNames ["b", "d"] }, { name := "d", suggests := .ofNames ["c"] }]

theorem resolveEach_table_tangled :
    (∀ m ∈ tangled, (Source.tableOf tangled)[m.name]? = some m) ∧
    (resolveEach (Source.table (Source.tableOf tangled)) tangled { state := [] }).1 =
      tangled.map (outcomeOver tangled []) ∧
    (resolveEach (Source.table (Source.tableOf tangled)) tangled { state := [] }).2.memo.settled =
      (resolveEach (Source.table (Source.tableOf tangled)) tangled.reverse
        { state := [] }).2.memo.settled := by
  have hms : ∀ m ∈ tangled, (Source.tableOf tangled)[m.name]? = some m := by decide +kernel
  obtain ⟨houtcomes, -, hperm⟩ := resolveEach_table tangled tangled [] [] hms
  exact ⟨hms, houtcomes, hperm _ tangled.reverse_perm.symm⟩

end Runs
end ModuleClosure.Closure
