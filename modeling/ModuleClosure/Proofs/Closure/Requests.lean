import ModuleClosure.Proofs.Closure.Frame
import ModuleClosure.Source.Directory

/-!
# Requests of a resolution

A source may answer by the name alone. Then a name is asked for once, since afterwards it is settled
or its description is being resolved. The second is seen only by the name that the description
declares: if that is another one, a module that needs itself is asked for once more, and this last
request ends the resolution in a cycle of the declared name.
-/
namespace ModuleClosure

/-- What a source answers to each name. -/
abbrev Answers := String → Except Failure Description

/-- The answers of a source depend on the name alone. -/
def Source.Gives {σ : Type} (source : Source σ) (answers : Answers) : Prop :=
  ∀ name s, (source.fetch name s).outcome = answers name

theorem Source.gives_directory (disk : Disk) (root : Disk.Path) :
    (directory disk root).Gives fun name => (lookUp disk root name).1 := fun _ _ => rfl

namespace Closure

variable {σ α : Type} {source : Source σ} {answers : Answers} {m : Description} {name : String}
  {names : List String} {depth : Nat} {p p' : Progress σ}

/-- What was asked for is settled, or its description is among those that are being resolved. -/
structure Tracked (answers : Answers) (memo : Memo) (pending : List String) : Prop where
  nodup : memo.requested.Nodup
  cases : ∀ n ∈ memo.requested,
    memo.Settled n ∨ ∃ d, answers n = .ok d ∧ d.name ∈ pending

/-- The last request repeats an earlier one, and its description declares a name that is pending. -/
def Repeats (answers : Answers) (requested : List String) (stop : Stop) : Prop :=
  ∃ names n d path, requested = names ++ [n] ∧ names.Nodup ∧ n ∈ names ∧
    answers n = .ok d ∧ d.name ≠ n ∧ stop = .failed (.cycle (d.name :: path ++ [d.name]))

/-- What a part of a resolution asks for. If it succeeds, all of that is settled. -/
inductive Asked (answers : Answers) (memo memo' : Memo) : Except Stop α → Prop
  | done {a} (hd : memo'.requested.Nodup)
      (hs : ∀ n ∈ memo'.requested, n ∈ memo.requested ∨ memo'.Settled n) :
      Asked answers memo memo' (.ok a)
  | stopped {stop} (hd : memo'.requested.Nodup) : Asked answers memo memo' (.error stop)
  | repeated {stop} (hr : Repeats answers memo'.requested stop) :
      Asked answers memo memo' (.error stop)

theorem Tracked.empty (pending : List String) : Tracked answers {} pending :=
  ⟨List.nodup_nil, fun _ h => nomatch h⟩

/-- While the description of a new name is resolved, the name is tracked by what it declares. -/
theorem Tracked.request {memo : Memo} (h : Tracked answers memo names) (hn : name ∉ memo.requested)
    {d : Description} (hd : answers name = .ok d) :
    Tracked answers (memo.request name) (names ++ [d.name]) where
  nodup := nodup_append_singleton h.nodup hn
  cases n hmem := by
    rcases List.mem_append.mp hmem with hmem | hmem
    · rcases h.cases n hmem with hs | ⟨e, he, hpend⟩
      · exact .inl hs
      · exact .inr ⟨e, he, List.mem_append_left _ hpend⟩
    · cases List.mem_singleton.mp hmem
      exact .inr ⟨d, hd, by simp⟩

/-- After a success the same descriptions are being resolved as before. -/
theorem Asked.tracked {a : α} (h : Asked answers p.memo p'.memo (.ok a)) (hframe : Frame p p')
    (ht : Tracked answers p.memo p.memo.pending) : Tracked answers p'.memo p'.memo.pending := by
  cases h with
  | done hd hs =>
    refine ⟨hd, fun n hn => ?_⟩
    rcases hs n hn with hn | hn
    · rcases ht.cases n hn with ⟨d, hget⟩ | ⟨d, hd, hpend⟩
      · exact .inl ⟨d, hframe.settled hget⟩
      · exact .inr ⟨d, hd, hframe.pending ▸ hpend⟩
    · exact .inl hn

/-- Of a part that fails only the requests matter. -/
theorem Asked.of_error {β : Type} {stop : Stop} {memo memo₁ memo' memo₁' : Memo}
    (h : Asked answers memo memo' (.error stop : Except Stop α))
    (hreq : memo₁'.requested = memo'.requested) :
    Asked answers memo₁ memo₁' (.error stop : Except Stop β) := by
  cases h with
  | stopped hd => exact .stopped (hreq ▸ hd)
  | repeated hr => exact .repeated (hreq ▸ hr)

/-- Resolutions of a depth ask for no name twice, unless that leads to a cycle at once. -/
def AsksOnce (source : Source σ) (answers : Answers) (depth : Nat) : Prop :=
  ∀ ⦃m p o p'⦄, resolveWithin source depth m p = (o, p') →
    Tracked answers p.memo (p.memo.pending ++ [m.name]) → Asked answers p.memo p'.memo o

/-- A name that is asked for again declares a name that is being resolved. -/
theorem Tracked.repeats (ht : Tracked answers p.memo p.memo.pending)
    (hs : p.memo.get? name = none) (hp : name ∉ p.memo.pending) (hmem : name ∈ p.memo.requested) :
    ∃ d, answers name = .ok d ∧ d.name ∈ p.memo.pending ∧
      Repeats answers (p.memo.request name).requested
        (.failed (.cycle (p.memo.cycleTo d.name))) := by
  rcases ht.cases name hmem with ⟨d, hd⟩ | ⟨d, hd, hpend⟩
  · cases hs.symm.trans hd
  · obtain ⟨path, hpath, -⟩ := Memo.cycleTo_eq hpend
    refine ⟨d, hd, hpend, p.memo.requested, name, d, path, rfl, ht.nodup, hmem, hd, ?_, by rw [hpath]⟩
    exact fun he => hp (he ▸ hpend)

theorem Demanded.asked (ha : source.Gives answers) (hn : AsksOnce source answers depth) {o}
    (h : Demanded source (resolveWithin source depth) name p o p')
    (ht : Tracked answers p.memo p.memo.pending) : Asked answers p.memo p'.memo o := by
  cases h with
  | settled hs => exact .done ht.nodup fun n hn => .inl hn
  | cycle hs hp => exact .stopped ht.nodup
  | refused hs hp hf =>
    have hnew : name ∉ p.memo.requested := by
      intro hmem
      obtain ⟨d, hd, -⟩ := ht.repeats hs hp hmem
      cases (ha name p.state ▸ hf).symm.trans hd
    exact .stopped (nodup_append_singleton ht.nodup hnew)
  | @stopped found stop p' hs hp hf hr =>
    rw [ha] at hf
    by_cases hmem : name ∈ p.memo.requested
    · -- The answer is the description that is pending already, which stops the nested resolution.
      obtain ⟨d, hd, hpend, hrep⟩ := ht.repeats hs hp hmem
      cases hf.symm.trans hd
      obtain ⟨ho, rfl⟩ := (resolved hr).of_pending hpend
      cases ho
      exact .repeated hrep
    · exact (hn hr (ht.request hmem hf)).of_error rfl
  | @answered found r p₁ d hs hp hf hr hd =>
    rw [ha] at hf
    have hnew : name ∉ p.memo.requested := by
      intro hmem
      obtain ⟨d, hd, hpend, -⟩ := ht.repeats hs hp hmem
      cases hf.symm.trans hd
      cases ((resolved hr).of_pending hpend).1
    cases hn hr (ht.request hnew hf) with
    | done hnodup hset =>
      refine .done (by simpa using hnodup) fun n hn => ?_
      rw [Progress.memo_settle, Memo.requested_settle] at hn
      rw [Progress.memo_settle, Memo.settled_settle]
      rcases hset n hn with hn | hn
      · rcases List.mem_append.mp hn with hn | hn
        · exact .inl hn
        · exact .inr (.inr (List.mem_singleton.mp hn))
      · exact .inr (.inl hn)

theorem DemandedAll.asked (ha : source.Gives answers) (hn : AsksOnce source answers depth) {o}
    (h : DemandedAll source (resolveWithin source depth) m names p o p')
    (ht : Tracked answers p.memo p.memo.pending) : Asked answers p.memo p'.memo o := by
  have hframed := framed source depth
  induction h with
  | nil => exact .done ht.nodup fun n hn => .inl hn
  | stopped hd => exact (hd.asked ha hn ht).of_error rfl
  | @cons _ _ p d p₁ o p₂ hd hr ih =>
    have hfirst := hd.asked ha hn ht
    have hrest : Asked answers p₁.memo p₂.memo o := ih (hfirst.tracked (hd.frame hframed) ht)
    have hframe : Frame p₁ p₂ := (Frame.report _ _).trans (hr.frame hframed)
    cases hrest with
    | done hnodup hset =>
      refine .done hnodup fun n hn => ?_
      rcases hset n hn with hn | hn
      · cases hfirst with
        | done _ hset =>
          rcases hset n hn with hn | ⟨e, he⟩
          · exact .inl hn
          · exact .inr ⟨e, hframe.settled he⟩
      · exact .inr hn
    | stopped hnodup => exact .stopped hnodup
    | repeated hrep => exact .repeated hrep

theorem asksOnce (ha : source.Gives answers) (depth : Nat) : AsksOnce source answers depth := by
  induction depth with
  | zero =>
    intro m p o p' h ht
    cases resolved h with
    | cycle => exact .stopped ht.nodup
    | tooDeep => exact .stopped ht.nodup
  | succ depth ih =>
    intro m p o p' h ht
    have hbegin : Tracked answers (p.begin m).memo (p.begin m).memo.pending := ⟨ht.nodup, ht.cases⟩
    cases resolved h with
    | cycle => exact .stopped ht.nodup
    | stopped hp hall => exact (hall.asked ha ih hbegin).of_error rfl
    | @done _ ds p₁ hp hall =>
      cases hall.asked ha ih hbegin with
      | done hnodup hset =>
        refine .done (by simpa using hnodup) fun n hn => ?_
        have hn' : n ∈ p₁.memo.requested := by simpa using hn
        exact (hset n hn').imp_right fun hs => Memo.settled_settle.mpr (.inl hs)

/-- The requests of a resolution from an empty memo differ from one another, or else the last one
repeats an earlier one: then the description declares another name than it is asked for by, and the
resolution fails with a cycle from that name to itself. -/
theorem resolveWithin_requested (ha : source.Gives answers) (depth : Nat) (m : Description) (s : σ) {o}
    (h : resolveWithin source depth m { state := s } = (o, p')) :
    p'.memo.requested.Nodup ∨
    ∃ names n d path, p'.memo.requested = names ++ [n] ∧ names.Nodup ∧ n ∈ names ∧
      answers n = .ok d ∧ d.name ≠ n ∧
      o = .error (.failed (.cycle (d.name :: path ++ [d.name]))) := by
  cases asksOnce ha depth h (.empty _) with
  | done hd => exact .inl hd
  | stopped hd => exact .inl hd
  | repeated hr =>
    obtain ⟨names, n, d, path, hreq, hd, hn, hget, hne, rfl⟩ := hr
    exact .inr ⟨names, n, d, path, hreq, hd, hn, hget, hne, rfl⟩

/-- A directory with a module that needs itself and declares another name. -/
def aliased : Source Unit :=
  Source.directory { root := .directory [("a.module", .ofText "Module: x\nDepends: a")] } ⟨true, [""]⟩

def aliasedRoot : Description := { name := "m", depends := .ofNames ["a"] }

theorem resolveWithin_requested_aliased : ∃ p',
    resolveWithin aliased 2 aliasedRoot { state := () } =
      (.error (.failed (.cycle ["x", "x"])), p') ∧
    p'.memo.requested = ["a", "a"] ∧
    ∃ n d, n ∈ p'.memo.requested ∧ (aliased.fetch n ()).outcome = .ok d ∧ d.name ≠ n := by
  have ho : (resolveWithin aliased 2 aliasedRoot { state := () }).1 =
      .error (.failed (.cycle ["x", "x"])) := by decide +kernel
  have hreq : (resolveWithin aliased 2 aliasedRoot { state := () }).2.memo.requested =
      ["a", "a"] := by decide +kernel
  have hgives : aliased.Gives fun name => (aliased.fetch name ()).outcome := Source.gives_directory _ _
  refine ⟨_, Prod.ext ho rfl, hreq, ?_⟩
  rcases resolveWithin_requested hgives 2 aliasedRoot () (Prod.ext ho rfl) with
    hd | ⟨names, n, d, path, hnames, -, hn, hd, hne, -⟩
  · rw [hreq] at hd
    exact absurd hd (by decide)
  · exact ⟨n, d, hnames ▸ List.mem_append_left _ hn, hd, hne⟩

/-- A name may be asked for twice. -/
theorem exists_repeated_request :
    ¬ ∀ (disk : Disk) (root : Disk.Path) (m : Description),
      (resolve (Source.directory disk root) m { state := () }).2.memo.requested.Nodup := by
  intro h
  have hd : (resolve aliased aliasedRoot { state := () }).2.memo.requested.Nodup := h _ _ aliasedRoot
  have hreq : (resolve aliased aliasedRoot { state := () }).2.memo.requested = ["a", "a"] := by
    decide +kernel
  rw [hreq] at hd
  exact absurd hd (by decide)

end Closure
end ModuleClosure
