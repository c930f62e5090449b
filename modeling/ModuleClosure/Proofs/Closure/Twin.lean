import Mathlib.Data.List.Forall2
import ModuleClosure.Proofs.Closure.Outcome
import ModuleClosure.Proofs.Closure.Requests

/-!
# What a resolution reads of descriptions

A resolution goes by the names of descriptions and by what they need. Two sources whose answers
differ only in versions, maintainers, flags and bounds lead to the same outcome, ask for the same
names and settle the same sets. What is said about bounds on the way has no part in it.
-/
namespace ModuleClosure

/-- Two descriptions of one name with the same needs. -/
structure Description.Twin (d e : Description) : Prop where
  name : d.name = e.name
  depends : d.depends = e.depends
  suggests : d.suggests = e.suggests

namespace Description

variable {d e : Description} {required required' suggested suggested' : List Description}

private theorem map_eq_of_twins {names : Description → NameSet}
    (hnames : ∀ {d e : Description}, d.Twin e → names d = names e)
    (h : List.Forall₂ Twin required required') : required.map names = required'.map names := by
  induction h with
  | nil => rfl
  | cons hd _ ih => rw [List.map_cons, List.map_cons, hnames hd, ih]

theorem Twin.closedOver (h : d.Twin e) (hr : List.Forall₂ Twin required required')
    (hs : List.Forall₂ Twin suggested suggested') :
    (d.closedOver required suggested).Twin (e.closedOver required' suggested') := by
  have hdep : required.map (·.depends) = required'.map (·.depends) :=
    map_eq_of_twins (fun h => h.depends) hr
  have hsug : suggested.map (fun d => d.depends ∪ d.suggests) =
      suggested'.map fun d => d.depends ∪ d.suggests :=
    map_eq_of_twins (fun h => by rw [h.depends, h.suggests]) hs
  refine ⟨h.name, ?_, ?_⟩
  · simp only [Description.closedOver, h.depends, hdep]
  · simp only [Description.closedOver, h.depends, h.suggests, hdep, hsug]

end Description

namespace Closure
open Description

/-- Two outcomes: results that belong together, or the same error. -/
inductive Agree {ε α β : Type} (r : α → β → Prop) : Except ε α → Except ε β → Prop
  | ok {a b} (h : r a b) : Agree r (.ok a) (.ok b)
  | error (e : ε) : Agree r (.error e) (.error e)

theorem Agree.cases {ε α β : Type} {r : α → β → Prop} {x : Except ε α} {y : Except ε β}
    (h : Agree r x y) :
    (∃ a b, x = .ok a ∧ y = .ok b ∧ r a b) ∨ ∃ e, x = .error e ∧ y = .error e := by
  cases h with
  | ok h => exact .inl ⟨_, _, rfl, rfl, h⟩
  | error e => exact .inr ⟨e, rfl, rfl⟩

variable {σ τ : Type}

/-- Two runs that have come equally far. -/
structure Parallel (p : Progress σ) (q : Progress τ) : Prop where
  pending : p.memo.pending = q.memo.pending
  requested : p.memo.requested = q.memo.requested
  get? : ∀ n, Option.Rel Twin (p.memo.get? n) (q.memo.get? n)

/-- Two steps with outcomes that agree, after which the runs have come equally far. -/
structure InStep {α β : Type} (r : α → β → Prop) (a : Except Stop α × Progress σ)
    (b : Except Stop β × Progress τ) : Prop where
  outcome : Agree r a.1 b.1
  progress : Parallel a.2 b.2

theorem InStep.cases {α β : Type} {r : α → β → Prop} {a : Except Stop α × Progress σ}
    {b : Except Stop β × Progress τ} (h : InStep r a b) :
    (∃ x y p q, a = (.ok x, p) ∧ b = (.ok y, q) ∧ r x y ∧ Parallel p q) ∨
      ∃ stop p q, a = (.error stop, p) ∧ b = (.error stop, q) ∧ Parallel p q := by
  obtain ⟨o, p⟩ := a
  obtain ⟨o', q⟩ := b
  obtain ⟨houtcome, hp⟩ := h
  cases houtcome with
  | ok h => exact .inl ⟨_, _, p, q, rfl, rfl, h, hp⟩
  | error stop => exact .inr ⟨stop, p, q, rfl, rfl, hp⟩

namespace Parallel

variable {p : Progress σ} {q : Progress τ} {d e : Description}

theorem get?_cases (h : Parallel p q) (n : String) :
    (p.memo.get? n = none ∧ q.memo.get? n = none) ∨
      ∃ d e, p.memo.get? n = some d ∧ q.memo.get? n = some e ∧ d.Twin e := by
  have hn := h.get? n
  generalize p.memo.get? n = x, q.memo.get? n = y at hn
  cases hn with
  | none => exact .inl ⟨rfl, rfl⟩
  | some h => exact .inr ⟨_, _, rfl, rfl, h⟩

theorem cycleTo (h : Parallel p q) (name : String) :
    p.memo.cycleTo name = q.memo.cycleTo name := by
  rw [Memo.cycleTo, Memo.cycleTo, h.pending]

theorem empty (s : σ) (s' : τ) :
    Parallel ({ state := s } : Progress σ) ({ state := s' } : Progress τ) where
  pending := rfl
  requested := rfl
  get? n := by
    rw [Memo.get?_empty]
    exact .none

theorem report (h : Parallel p q) (notices notices' : List Notice) :
    Parallel (p.report notices) (q.report notices') :=
  ⟨h.pending, h.requested, h.get?⟩

theorem receive (h : Parallel p q) (name : String) (reply : Reply σ) (reply' : Reply τ) :
    Parallel (p.receive name reply) (q.receive name reply') where
  pending := h.pending
  requested := congrArg (· ++ [name]) h.requested
  get? := h.get?

theorem enter (h : Parallel p q) (name : String) : Parallel (p.enter name) (q.enter name) where
  pending := congrArg (· ++ [name]) h.pending
  requested := h.requested
  get? := h.get?

theorem leave (h : Parallel p q) (name : String) : Parallel (p.leave name) (q.leave name) where
  pending := congrArg (fun names : List String => (names.reverse.erase name).reverse) h.pending
  requested := h.requested
  get? := h.get?

theorem settle (h : Parallel p q) (hd : d.Twin e) : Parallel (p.settle d) (q.settle e) where
  pending := by simpa using h.pending
  requested := by simpa using h.requested
  get? n := by
    rw [Progress.memo_settle, Progress.memo_settle, Memo.get?_settle, Memo.get?_settle, hd.name]
    rcases h.get?_cases n with ⟨hp, hq⟩ | ⟨d', e', hp, hq, htwin⟩
    · rw [hp, hq, Option.none_or, Option.none_or]
      split
      · exact .some hd
      · exact .none
    · rw [hp, hq]
      exact .some htwin

end Parallel

/-- Two ways to resolve that keep two runs in step. -/
def KeepStep (nested : Description → Step σ Description)
    (nested' : Description → Step τ Description) : Prop :=
  ∀ ⦃m m' p q⦄, m.Twin m' → Parallel p q → InStep Twin (nested m p) (nested' m' q)

variable {source : Source σ} {source' : Source τ} {answers answers' : Answers}
  {nested : Description → Step σ Description} {nested' : Description → Step τ Description}
  {m m' : Description} {p : Progress σ} {q : Progress τ}

section Steps

variable (ha : source.Gives answers) (ha' : source'.Gives answers')
  (hanswers : ∀ n, Agree Twin (answers n) (answers' n))
include ha ha' hanswers

theorem demand_inStep (hn : KeepStep nested nested') (h : Parallel p q) (name : String) :
    InStep Twin (demand source nested name p) (demand source' nested' name q) := by
  rcases h.get?_cases name with ⟨hs, hs'⟩ | ⟨d, e, hs, hs', htwin⟩
  swap
  · simp only [demand, hs, hs']
    exact ⟨.ok htwin, h⟩
  by_cases hmem : name ∈ p.memo.pending
  · simp only [demand, hs, hs', hmem, h.pending ▸ hmem, if_true, h.cycleTo]
    exact ⟨.error _, h⟩
  simp only [demand, hs, hs', hmem, h.pending ▸ hmem, if_false, ha name, ha' name]
  rcases (hanswers name).cases with ⟨found, found', hf, hf', htwin⟩ | ⟨f, hf, hf'⟩
  swap
  · simp only [hf, hf']
    exact ⟨.error _, h.receive name _ _⟩
  simp only [hf, hf']
  rcases (hn htwin (h.receive name (source.fetch name p.state)
    (source'.fetch name q.state))).cases with
    ⟨r, r', p₁, q₁, hr, hr', htwin, hp₁⟩ | ⟨stop, p₁, q₁, hr, hr', hp₁⟩
  swap
  · simp only [hr, hr']
    exact ⟨.error _, hp₁⟩
  -- Both descriptions declare the name that was asked for, or neither does.
  have hsettled : Parallel (if r.name = name then p₁ else p₁.settle { r with name })
      (if r'.name = name then q₁ else q₁.settle { r' with name }) := by
    rw [htwin.name]
    split
    · exact hp₁
    · exact hp₁.settle ⟨rfl, htwin.depends, htwin.suggests⟩
  rcases hsettled.get?_cases name with ⟨hd, hd'⟩ | ⟨d, e, hd, hd', htwin⟩
  · simp only [hr, hr', hd, hd']
    exact ⟨.error _, hsettled⟩
  · simp only [hr, hr', hd, hd']
    exact ⟨.ok htwin, hsettled⟩

theorem demandAll_inStep (hn : KeepStep nested nested') (m m' : Description)
    (names : List String) (h : Parallel p q) :
    InStep (List.Forall₂ Twin) (demandAll source nested m names p)
      (demandAll source' nested' m' names q) := by
  induction names generalizing p q with
  | nil => exact ⟨.ok .nil, h⟩
  | cons name names ih =>
    unfold demandAll
    rcases (demand_inStep ha ha' hanswers hn h name).cases with
      ⟨d, e, p₁, q₁, hd, hd', htwin, hp₁⟩ | ⟨stop, p₁, q₁, hd, hd', hp₁⟩
    swap
    · simp only [hd, hd']
      exact ⟨.error _, hp₁⟩
    rcases (ih (hp₁.report (m.boundNotices d) (m'.boundNotices e))).cases with
      ⟨ds, es, p₂, q₂, hds, hes, htwins, hp₂⟩ | ⟨stop, p₂, q₂, hds, hes, hp₂⟩
    · simp only [hd, hd', hds, hes]
      exact ⟨.ok (.cons htwin htwins), hp₂⟩
    · simp only [hd, hd', hds, hes]
      exact ⟨.error _, hp₂⟩

theorem close_inStep (hn : KeepStep nested nested') (hm : m.Twin m') (h : Parallel p q) :
    InStep Twin (close source nested m p) (close source' nested' m' q) := by
  unfold close
  dsimp only
  rw [← hm.depends, ← hm.suggests]
  have hbegin := h.report [.closureBegun m.name m.depends.size m.suggests.size]
    [.closureBegun m'.name m.depends.size m.suggests.size]
  rcases (demandAll_inStep ha ha' hanswers hn m m' m.depends.toList hbegin).cases with
    ⟨rs, rs', p₁, q₁, hr, hr', hrequired, hp₁⟩ | ⟨stop, p₁, q₁, hr, hr', hp₁⟩
  swap
  · simp only [hr, hr']
    exact ⟨.error _, hp₁⟩
  rcases (demandAll_inStep ha ha' hanswers hn m m' m.suggests.toList hp₁).cases with
    ⟨ss, ss', p₂, q₂, hs, hs', hsuggested, hp₂⟩ | ⟨stop, p₂, q₂, hs, hs', hp₂⟩
  · simp only [hr, hr', hs, hs']
    have hclosed := hm.closedOver hrequired hsuggested
    exact ⟨.ok hclosed, (hp₂.settle hclosed).report _ _⟩
  · simp only [hr, hr', hs, hs']
    exact ⟨.error _, hp₂⟩

/-- Resolutions of any depth keep two runs in step. -/
theorem keepStep (depth : Nat) :
    KeepStep (resolveWithin source depth) (resolveWithin source' depth) := by
  induction depth with
  | zero =>
    intro m m' p q hm h
    unfold resolveWithin
    rw [← hm.name, ← h.pending, ← h.cycleTo]
    split
    · exact ⟨.error _, h⟩
    · exact ⟨.error _, h⟩
  | succ depth ih =>
    intro m m' p q hm h
    have hclose := close_inStep ha ha' hanswers ih hm (h.enter m.name)
    unfold resolveWithin
    rw [← hm.name, ← h.pending, ← h.cycleTo]
    split
    · exact ⟨.error _, h⟩
    · exact ⟨hclose.outcome, hclose.progress.leave m.name⟩

end Steps

/-- What a resolution from an empty memo comes to does not depend on versions, maintainers, flags
and bounds, neither of the root nor of what the source answers: the closures have the same sets or
the error is the same, the requests are the same, and the same names are settled with the same
sets. The error is a failure if the depth is more than the names that the source declares. -/
theorem resolveWithin_twins (ha : source.Gives answers) (ha' : source'.Gives answers')
    (hanswers : ∀ n, Agree Twin (answers n) (answers' n)) (hm : m.Twin m') (depth : Nat)
    (s : σ) (s' : τ) {o o'} {p : Progress σ} {q : Progress τ}
    (h : resolveWithin source depth m { state := s } = (o, p))
    (h' : resolveWithin source' depth m' { state := s' } = (o', q)) :
    ((∃ r r', o = .ok r ∧ o' = .ok r' ∧ r.depends = r'.depends ∧ r.suggests = r'.suggests) ∨
      ∃ stop, o = .error stop ∧ o' = .error stop ∧
        ∀ known, Declares source known → known.length < depth → ∃ f, stop = .failed f) ∧
    p.memo.requested = q.memo.requested ∧
    ∀ n, Option.Rel Twin (p.memo.get? n) (q.memo.get? n) := by
  have hrun := keepStep ha ha' hanswers depth hm (.empty s s')
  rw [h, h'] at hrun
  refine ⟨?_, hrun.progress.requested, hrun.progress.get?⟩
  rcases hrun.outcome.cases with ⟨r, r', ho, ho', htwin⟩ | ⟨stop, ho, ho'⟩
  · exact .inl ⟨r, r', ho, ho', htwin.depends, htwin.suggests⟩
  · refine .inr ⟨stop, ho, ho', fun known hdecl hdepth => ?_⟩
    cases stop with
    | failed f => exact ⟨f, rfl⟩
    | tooDeep => exact absurd ho (resolveWithin_ne_tooDeep hdecl hdepth rfl h)

section Tables

/-- What a table answers. -/
def tableAnswers (modules : NameMap Description) : Answers := fun name =>
  match modules[name]? with
  | some d => .ok d
  | none => .error (.noAddress name)

theorem gives_table (modules : NameMap Description) :
    (Source.table modules).Gives (tableAnswers modules) := fun _ _ => rfl

/-- Tables of twins answer alike. -/
theorem agree_tableAnswers {ds es : List Description} (h : List.Forall₂ Twin ds es) (n : String) :
    Agree Twin (tableAnswers (Source.tableOf ds) n) (tableAnswers (Source.tableOf es) n) := by
  have hfind {ds es : List Description} (h : List.Forall₂ Twin ds es) :
      Option.Rel Twin (ds.find? fun d => d.name = n) (es.find? fun e => e.name = n) := by
    induction h with
    | nil => exact .none
    | @cons d e _ _ hd _ ih =>
      rw [List.find?_cons, List.find?_cons, hd.name]
      split
      · exact .some hd
      · exact ih
  have hrev := hfind (List.forall₂_reverse_iff.mpr h)
  rw [tableAnswers, tableAnswers, Source.getElem?_tableOf, Source.getElem?_tableOf]
  generalize ds.reverse.find? (fun d => d.name = n) = x at hrev ⊢
  generalize es.reverse.find? (fun e => e.name = n) = y at hrev ⊢
  cases hrev with
  | none => exact .error _
  | some h => exact .ok h

/-- Modules without versions. -/
def bare : List Description :=
  [{ name := "a", depends := .ofNames ["b"], suggests := .ofNames ["c"] }, { name := "b" },
    { name := "c", suggests := .ofNames ["b"] }]

/-- The same modules with a bound that is met by no version and one that cannot be compared. -/
def versioned : List Description :=
  [{ name := "a", version := some "x.y", depends := .ofNames ["b"], suggests := .ofNames ["c"],
      bounds := .ofEntries [("b", ⟨.above, "9"⟩), ("c", ⟨.equal, "?"⟩)] },
    { name := "b", version := some "2.10", maintainer := some "b@example.org" },
    { name := "c", version := some "1", whitespaceHook := true, suggests := .ofNames ["b"] }]

def bareRoot : Description := { name := "m", depends := .ofNames ["a"], suggests := .ofNames ["c"] }

def versionedRoot : Description :=
  { bareRoot with version := some "0", bounds := .ofEntries [("a", ⟨.below, "1"⟩)] }

theorem resolveWithin_twins_versioned :
    bareRoot.Twin versionedRoot ∧
    ∃ r r',
      (resolveWithin (Source.table (Source.tableOf bare)) 4 bareRoot { state := [] }).1 = .ok r ∧
      (resolveWithin (Source.table (Source.tableOf versioned)) 4 versionedRoot
        { state := [] }).1 = .ok r' ∧
      r.depends = r'.depends ∧ r.suggests = r'.suggests ∧
      r.depends.toList = ["a", "b"] ∧ r.suggests.toList = ["c"] ∧ r.version ≠ r'.version := by
  have htwins : List.Forall₂ Twin bare versioned :=
    .cons ⟨rfl, rfl, rfl⟩ (.cons ⟨rfl, rfl, rfl⟩ (.cons ⟨rfl, rfl, rfl⟩ .nil))
  have hroot : bareRoot.Twin versionedRoot := ⟨rfl, rfl, rfl⟩
  obtain ⟨houtcome, -⟩ := resolveWithin_twins (gives_table _) (gives_table _)
    (agree_tableAnswers htwins) hroot 4 [] [] (Prod.eta _).symm (Prod.eta _).symm
  have ho : (resolveWithin (Source.table (Source.tableOf bare)) 4 bareRoot { state := [] }).1.map
      (fun r => (r.depends.toList, r.suggests.toList, r.version)) =
        .ok (["a", "b"], ["c"], none) := by decide +kernel
  have ho' : (resolveWithin (Source.table (Source.tableOf versioned)) 4 versionedRoot
      { state := [] }).1.map (·.version) = .ok (some "0") := by decide +kernel
  rcases houtcome with ⟨r, r', hr, hr', hdep, hsug⟩ | ⟨stop, h, -⟩
  · simp only [hr, Except.map, Except.ok.injEq, Prod.mk.injEq] at ho
    simp only [hr', Except.map, Except.ok.injEq] at ho'
    obtain ⟨hd, hs, hv⟩ := ho
    refine ⟨hroot, r, r', hr, hr', hdep, hsug, hd, hs, ?_⟩
    rw [hv, ho']
    exact nofun
  · rw [h] at ho
    cases ho

end Tables

end Closure
end ModuleClosure
