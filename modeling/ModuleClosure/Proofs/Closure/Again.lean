import ModuleClosure.Proofs.Closure.Reachable

/-!
# Resolving a closure again

A closure is resolved again from the memo alone: nothing is asked of the source and the memo stays
as it is. The dependencies stay too, but not always the suggestions. A module that is suggested only
because a suggestion depends on it becomes a suggestion of its own, and then brings what it suggests
itself.
-/
namespace ModuleClosure

namespace Memo

variable {memo : Memo} {r : Description}

theorem Covers.depends_closureOf (h : memo.Covers r) : (memo.closureOf r).depends = r.depends := by
  ext n
  rw [mem_depends_closureOf]
  refine ⟨?_, .inl⟩
  rintro (hn | ⟨x, hx, e, he, hn⟩)
  · exact hn
  · obtain ⟨f, hf, hsub⟩ := h.depends x hx
    cases he.symm.trans hf
    exact hsub n hn

/-- Closing once more adds the suggestions of suggestions, and nothing else. -/
theorem Covers.mem_suggests_closureOf (h : memo.Covers r) {n : String} :
    n ∈ (memo.closureOf r).suggests ↔ n ∈ r.suggests ∨
      n ∉ r.depends ∧ ∃ s ∈ r.suggests, ∃ e, memo.get? s = some e ∧ n ∈ e.suggests := by
  rw [Memo.mem_suggests_closureOf, h.depends_closureOf]
  constructor
  · rintro ⟨hn | ⟨x, hx, e, he, hn | hn⟩, hdep⟩
    · exact .inl hn
    · obtain ⟨f, hf, hsub⟩ := h.suggests x hx
      cases he.symm.trans hf
      exact (hsub n hn).elim (fun hd => absurd hd hdep) .inl
    · exact .inr ⟨hdep, x, hx, e, he, hn⟩
  · rintro (hn | ⟨hdep, x, hx, e, he, hn⟩)
    · exact ⟨.inl hn, fun hd => h.disjoint n hd hn⟩
    · exact ⟨.inr ⟨x, hx, e, he, .inr hn⟩, hdep⟩

/-- A covered description is its own closure if its suggestions suggest nothing new. -/
theorem Covers.closureOf_eq_self_iff (h : memo.Covers r) :
    memo.closureOf r = r ↔ ∀ s ∈ r.suggests, ∀ e, memo.get? s = some e →
      ∀ n ∈ e.suggests, n ∈ r.depends ∨ n ∈ r.suggests := by
  constructor
  · intro heq s hs e he n hn
    by_cases hdep : n ∈ r.depends
    · exact .inl hdep
    · exact .inr (heq ▸ h.mem_suggests_closureOf.mpr (.inr ⟨hdep, s, hs, e, he, hn⟩))
  · intro hclosed
    have hsug : (memo.closureOf r).suggests = r.suggests := by
      ext n
      rw [h.mem_suggests_closureOf]
      refine ⟨?_, .inl⟩
      rintro (hn | ⟨hdep, s, hs, e, he, hn⟩)
      · exact hn
      · exact (hclosed s hs e he n hn).resolve_left hdep
    rw [closureOf_eq, h.depends_closureOf, hsug]

end Memo

namespace Closure

variable {σ : Type} {source : Source σ} {m r : Description} {p p' : Progress σ}

/-- Names that are settled are answered from the memo. -/
theorem demandAll_settled (source : Source σ) (nested : Description → Step σ Description)
    (m : Description) {names : List String} (h : ∀ n ∈ names, p.memo.Settled n) :
    ∃ notices, demandAll source nested m names p =
      (.ok (names.filterMap p.memo.get?), p.report notices) := by
  induction names generalizing p with
  | nil => exact ⟨[], by simp [demandAll, Progress.report]⟩
  | cons name names ih =>
    obtain ⟨d, hd⟩ := h name List.mem_cons_self
    have hdemand : demand source nested name p = (.ok d, p) := by
      simp only [demand, hd]
    obtain ⟨notices, hrest⟩ := ih (p := p.report (m.boundNotices d))
      fun n hn => h n (List.mem_cons_of_mem name hn)
    refine ⟨m.boundNotices d ++ notices, ?_⟩
    simp only [demandAll, hdemand, hrest, Progress.memo_report, List.filterMap_cons, hd]
    simp [Progress.report]

/-- A description is resolved from the memo if it is settled and so is all it needs. -/
theorem resolveWithin_settled (source : Source σ) (depth : Nat) (hpend : m.name ∉ p.memo.pending)
    (hname : p.memo.Settled m.name) (hneeds : ∀ n ∈ m.needs, p.memo.Settled n) :
    ∃ notices, resolveWithin source (depth + 1) m p =
      (.ok (p.memo.closureOf m), p.report notices) := by
  obtain ⟨required, hreq⟩ := demandAll_settled source (resolveWithin source depth) m
    (p := p.begin m) fun n hn => hneeds n (List.mem_append_left _ hn)
  obtain ⟨suggested, hsug⟩ := demandAll_settled source (resolveWithin source depth) m
    (p := (p.begin m).report required) fun n hn => hneeds n (List.mem_append_right _ hn)
  have hsettle : (p.memo.enter m.name).settle (p.memo.closureOf m) = p.memo.enter m.name :=
    Memo.settle_of_settled hname
  refine ⟨.closureBegun m.name m.depends.size m.suggests.size :: (required ++ suggested ++
    [.closureDone m.name (p.memo.closureOf m).depends.size (p.memo.closureOf m).suggests.size]), ?_⟩
  rw [Progress.begin] at hreq hsug
  simp only [resolveWithin, hpend, if_false, close, hreq, hsug]
  change (Except.ok (p.memo.closureOf m),
    (((p.begin m).report required).report suggested).finish (p.memo.closureOf m)) = _
  simp [Progress.finish, Progress.begin, Progress.report, Progress.settle, Progress.enter,
    Progress.leave, hsettle, Memo.leave_enter]

/-- Resolving a closure again asks for nothing, keeps the memo and the source as they are, and gives
the same closure up to the suggestions. These grow by what suggestions suggest, so the closure is the
same exactly if that is nothing new. -/
theorem resolve_resolved (hp : Reachable p.memo) (h : resolve source m p = (.ok r, p')) :
    ∃ again p'', resolve source r p' = (.ok again, p'') ∧
      p''.memo = p'.memo ∧ p''.state = p'.state ∧
      again = { r with suggests := again.suggests } ∧
      (∀ n, n ∈ again.suggests ↔ n ∈ r.suggests ∨
        n ∉ r.depends ∧ ∃ s ∈ r.suggests, ∃ e, p'.memo.get? s = some e ∧ n ∈ e.suggests) ∧
      (again = r ↔ ∀ s ∈ r.suggests, ∀ e, p'.memo.get? s = some e →
        ∀ n ∈ e.suggests, n ∈ r.depends ∨ n ∈ r.suggests) := by
  have hcov : p'.memo.Covers r := (keepsSound source _ h hp.sound).2 r rfl
  obtain ⟨hframe, hok⟩ := framed source _ h
  obtain ⟨hname, hset⟩ := hok r rfl
  have hpend : r.name ∉ p'.memo.pending := by
    rw [hframe.pending, hp.pending]
    exact List.not_mem_nil
  have hneeds (n : String) (hn : n ∈ r.needs) : p'.memo.Settled n :=
    hcov.settled (Description.mem_needs.mp hn)
  obtain ⟨notices, hagain⟩ :=
    resolveWithin_settled source source.reach hpend (hname ▸ hset) hneeds
  refine ⟨p'.memo.closureOf r, p'.report notices, hagain, rfl, rfl, ?_, fun n => ?_, ?_⟩
  · rw [Memo.closureOf_eq, hcov.depends_closureOf]
  · exact hcov.mem_suggests_closureOf
  · exact hcov.closureOf_eq_self_iff

/-- A suggestion `a` that depends on a module with a suggestion of its own. -/
def dormant : Source (List String) :=
  Source.table (Source.tableOf [{ name := "a", depends := .ofNames ["b"] },
    { name := "b", suggests := .ofNames ["c"] }, { name := "c" }])

def dormantRoot : Description := { name := "m", suggests := .ofNames ["a"] }

def dormantClosure : Description := { dormantRoot with suggests := .ofNames ["a", "b"] }

private theorem resolve_dormantRoot : resolve dormant dormantRoot { state := [] } =
    (.ok dormantClosure, (resolve dormant dormantRoot { state := [] }).2) := by
  have h : (resolve dormant dormantRoot { state := [] }).1 = .ok dormantClosure := by
    decide +kernel
  exact Prod.ext h rfl

/-- The suggestions of `dormantRoot` grow when its closure is resolved again. -/
theorem resolve_resolved_dormant :
    resolve dormant dormantRoot { state := [] } =
      (.ok dormantClosure, (resolve dormant dormantRoot { state := [] }).2) ∧
    ∃ again p'', resolve dormant dormantClosure
        (resolve dormant dormantRoot { state := [] }).2 = (.ok again, p'') ∧
      "c" ∈ again.suggests := by
  refine ⟨resolve_dormantRoot, ?_⟩
  obtain ⟨again, p'', h, -, -, -, hmem, -⟩ := resolve_resolved .empty resolve_dormantRoot
  refine ⟨again, p'', h, (hmem "c").mpr (.inr ⟨by decide, "b", by decide, ?_⟩)⟩
  exact ⟨{ name := "b", suggests := .ofNames ["c"] }, by decide +kernel, by decide⟩

/-- A closure that is resolved again is not always the same. -/
theorem exists_closure_changes :
    ¬ ∀ (ds : List Description) (m r : Description) (p p' : Progress (List String)),
      Reachable p.memo → resolve (Source.table (Source.tableOf ds)) m p = (.ok r, p') →
        (resolve (Source.table (Source.tableOf ds)) r p').1 = .ok r := by
  intro h
  have hsame : (resolve dormant dormantClosure (resolve dormant dormantRoot { state := [] }).2).1 =
      .ok dormantClosure := h _ dormantRoot dormantClosure { state := [] } _ .empty resolve_dormantRoot
  have hgrown : (resolve dormant dormantClosure
      (resolve dormant dormantRoot { state := [] }).2).1 =
        .ok { dormantRoot with suggests := .ofNames ["a", "b", "c"] } := by decide +kernel
  rw [hsame] at hgrown
  exact absurd hgrown (by decide)

end Closure
end ModuleClosure
