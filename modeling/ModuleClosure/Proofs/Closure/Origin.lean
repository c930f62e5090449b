import ModuleClosure.Proofs.Closure.Reachable

/-!
# Where failures come from

A resolution asks its source for one name after another and goes on only with an answer. So a
failure is either a cycle, which the resolution itself finds among the root's name and the names
that the answers declare, or the failure with which the source refused the last request.
-/
namespace ModuleClosure

namespace Source

variable {σ : Type} (source : Source σ)

/-- The state of a source after names were asked for in order. -/
def after : List String → σ → σ
  | [], s => s
  | name :: names, s => after names (source.fetch name s).state

/-- What a source says to names that are asked for in order. -/
def outcomes : List String → σ → List (Except Failure Description)
  | [], _ => []
  | name :: names, s =>
    (source.fetch name s).outcome :: outcomes names (source.fetch name s).state

theorem after_append (names names' : List String) (s : σ) :
    source.after (names ++ names') s = source.after names' (source.after names s) := by
  induction names generalizing s with
  | nil => rfl
  | cons name names ih => exact ih _

theorem outcomes_append (names names' : List String) (s : σ) :
    source.outcomes (names ++ names') s =
      source.outcomes names s ++ source.outcomes names' (source.after names s) := by
  induction names generalizing s with
  | nil => rfl
  | cons name names ih =>
    rw [List.cons_append, outcomes, ih]
    rfl

end Source

namespace Closure

variable {σ α : Type} {source : Source σ} {nested : Description → Step σ Description}
  {m : Description} {name : String} {names names' known known' : List String}
  {ds ds' : List Description} {p p₁ p' : Progress σ}

/-- Between two states of a resolution the source was asked for names and answered each of them. -/
structure Answered (source : Source σ) (names : List String) (ds : List Description)
    (p p' : Progress σ) : Prop where
  requested : p'.memo.requested = p.memo.requested ++ names
  state : p'.state = source.after names p.state
  outcomes : source.outcomes names p.state = ds.map .ok

namespace Answered

theorem refl (p : Progress σ) : Answered source [] [] p p := ⟨by simp, rfl, rfl⟩

theorem trans (h : Answered source names ds p p₁) (h' : Answered source names' ds' p₁ p') :
    Answered source (names ++ names') (ds ++ ds') p p' where
  requested := by rw [h'.requested, h.requested, List.append_assoc]
  state := by rw [h'.state, h.state, Source.after_append]
  outcomes := by rw [Source.outcomes_append, ← h.state, h.outcomes, h'.outcomes, List.map_append]

theorem receive {found : Description} (hf : (source.fetch name p.state).outcome = .ok found) :
    Answered source [name] [found] p (p.receive name (source.fetch name p.state)) :=
  ⟨rfl, rfl, by simp [Source.outcomes, hf]⟩

theorem congr {q q' : Progress σ} (h : Answered source names ds p p')
    (hreq : q.memo.requested = p.memo.requested) (hstate : q.state = p.state)
    (hreq' : q'.memo.requested = p'.memo.requested) (hstate' : q'.state = p'.state) :
    Answered source names ds q q' :=
  ⟨by rw [hreq', hreq, h.requested], by rw [hstate', hstate, h.state], by rw [hstate, h.outcomes]⟩

end Answered

/-- Where the outcome of a part of a resolution comes from. All that the source was asked for was
answered, but for the last request of a part that it refuses. The names of a cycle are among the
given ones, or answers declare them. -/
inductive Origin (source : Source σ) (known : List String) (p p' : Progress σ) :
    Except Stop α → Prop
  | result {a names ds} (h : Answered source names ds p p') : Origin source known p p' (.ok a)
  | tooDeep {names : List String} {ds : List Description} (h : Answered source names ds p p') :
      Origin source known p p' (.error .tooDeep)
  | cycle {names ds n rest} (h : Answered source names ds p p') (hd : (n :: rest).Nodup)
      (hm : ∀ x ∈ n :: rest, x ∈ known ∨ x ∈ ds.map (·.name)) :
      Origin source known p p' (.error (.failed (.cycle (n :: rest ++ [n]))))
  | refused {names ds n f} {q : Progress σ} (h : Answered source names ds p q)
      (hf : (source.fetch n q.state).outcome = .error f)
      (hreq : p'.memo.requested = q.memo.requested ++ [n])
      (hstate : p'.state = (source.fetch n q.state).state) :
      Origin source known p p' (.error (.failed f))

namespace Origin

/-- What was asked for and answered before a part counts as asked for in it. -/
theorem after {o : Except Stop α} (h : Origin source known' p₁ p' o)
    (hp : Answered source names ds p p₁)
    (hk : ∀ x ∈ known', x ∈ known ∨ x ∈ ds.map (·.name)) : Origin source known p p' o := by
  cases h with
  | result h => exact .result (hp.trans h)
  | tooDeep h => exact .tooDeep (hp.trans h)
  | cycle h hd hm =>
    refine .cycle (hp.trans h) hd fun x hx => ?_
    rw [List.map_append, List.mem_append]
    rcases hm x hx with hx | hx
    · exact (hk x hx).imp_right .inl
    · exact .inr (.inr hx)
  | refused h hf hreq hstate => exact .refused (hp.trans h) hf hreq hstate

theorem of_error {β : Type} {stop : Stop} {q' : Progress σ}
    (h : Origin source known p p' (.error stop : Except Stop α))
    (hreq : q'.memo.requested = p'.memo.requested) (hstate : q'.state = p'.state) :
    Origin source known p q' (.error stop : Except Stop β) := by
  cases h with
  | tooDeep h => exact .tooDeep (h.congr rfl rfl hreq hstate)
  | cycle h hd hm => exact .cycle (h.congr rfl rfl hreq hstate) hd hm
  | refused h hf hreq' hstate' => exact .refused h hf (hreq.trans hreq') (hstate.trans hstate')

/-- The requests of a part are what brings the source to its later state. -/
theorem requests {o : Except Stop α} (h : Origin source known p p' o) :
    ∃ names, p'.memo.requested = p.memo.requested ++ names ∧
      p'.state = source.after names p.state := by
  cases h with
  | result h => exact ⟨_, h.requested, h.state⟩
  | tooDeep h => exact ⟨_, h.requested, h.state⟩
  | cycle h => exact ⟨_, h.requested, h.state⟩
  | @refused names _ n _ q h hf hreq hstate =>
    refine ⟨names ++ [n], by rw [hreq, h.requested, List.append_assoc], ?_⟩
    rw [hstate, Source.after_append, ← h.state]
    rfl

end Origin

/-- A cycle is cut out of the pending names. -/
theorem Origin.of_pending (hd : p.memo.pending.Nodup) (hp : name ∈ p.memo.pending)
    (hk : ∀ x ∈ p.memo.pending, x ∈ known) :
    Origin source known p p (.error (.failed (.cycle (p.memo.cycleTo name))) : Except Stop α) := by
  obtain ⟨rest, hrest, hsuffix⟩ := Memo.cycleTo_eq hp
  rw [hrest]
  exact .cycle (.refl p) (hd.sublist hsuffix.sublist) fun x hx => .inl (hk x (hsuffix.subset hx))

/-- A way to resolve with outcomes that come from the pending names, the one that is resolved and
the source. -/
def Originates (source : Source σ) (nested : Description → Step σ Description) : Prop :=
  ∀ ⦃m p o p'⦄, nested m p = (o, p') → p.memo.pending.Nodup →
    Origin source (p.memo.pending ++ [m.name]) p p' o

theorem Demanded.origin (hn : Originates source nested) {o}
    (h : Demanded source nested name p o p') (hd : p.memo.pending.Nodup) :
    Origin source p.memo.pending p p' o := by
  have hknown {found : Description} :
      ∀ x ∈ p.memo.pending ++ [found.name], x ∈ p.memo.pending ∨ x ∈ [found].map (·.name) :=
    fun x hx => List.mem_append.mp hx
  cases h with
  | settled => exact .result (.refl p)
  | cycle hs hp => exact .of_pending hd hp fun x hx => hx
  | refused hs hp hf => exact .refused (.refl p) hf rfl rfl
  | stopped hs hp hf hr => exact (hn hr hd).after (.receive hf) hknown
  | @answered found r p₁ d hs hp hf hr hget =>
    cases (hn hr hd).after (.receive hf) hknown with
    | result h => exact .result (h.congr rfl rfl (by simp) rfl)

theorem DemandedAll.origin (hframed : Framed nested) (hn : Originates source nested) {o}
    (h : DemandedAll source nested m names p o p') (hd : p.memo.pending.Nodup) :
    Origin source p.memo.pending p p' o := by
  induction h with
  | nil => exact .result (.refl _)
  | stopped hfirst => exact (hfirst.origin hn hd).of_error rfl rfl
  | @cons _ _ p d p₁ o p₂ hfirst hr ih =>
    have hpend : p₁.memo.pending = p.memo.pending := (hfirst.frame hframed).pending
    have hrest := ih (by rwa [Progress.memo_report, hpend])
    rw [Progress.memo_report, hpend] at hrest
    cases hfirst.origin hn hd with
    | result h =>
      have hall := hrest.after (h.congr rfl rfl rfl rfl) fun x hx => .inl hx
      cases o with
      | error stop => exact hall.of_error rfl rfl
      | ok ds =>
        cases hall with
        | result h => exact .result h

theorem originates (source : Source σ) (depth : Nat) :
    Originates source (resolveWithin source depth) := by
  have hcycle {m : Description} {p : Progress σ} (hd : p.memo.pending.Nodup)
      (hp : m.name ∈ p.memo.pending) :
      Origin source (p.memo.pending ++ [m.name]) p p
        (.error (.failed (.cycle (p.memo.cycleTo m.name))) : Except Stop Description) :=
    .of_pending hd hp fun x hx => List.mem_append_left _ hx
  induction depth with
  | zero =>
    intro m p o p' h hd
    cases resolved h with
    | cycle hp => exact hcycle hd hp
    | tooDeep => exact .tooDeep (.refl p)
  | succ depth ih =>
    intro m p o p' h hd
    have hbegin : Answered source [] [] p (p.begin m) := (Answered.refl p).congr rfl rfl rfl rfl
    have hnodup (hp : m.name ∉ p.memo.pending) : (p.begin m).memo.pending.Nodup :=
      nodup_append_singleton hd hp
    cases resolved h with
    | cycle hp => exact hcycle hd hp
    | stopped hp ha =>
      have horigin := ha.origin (framed source depth) ih (hnodup hp)
      exact (horigin.after hbegin fun x hx => .inl hx).of_error rfl rfl
    | @done _ ds p₁ hp ha =>
      cases ha.origin (framed source depth) ih (hnodup hp) with
      | result h => exact .result ((hbegin.trans h).congr rfl rfl (by simp) rfl)

/-- Whatever the source answers and whatever earlier resolutions left in the memo, a failure comes
after a number of requests in one of two ways. All of them were answered, and the failure is a
cycle of different names, each the root's or one that an answer declares. Or all but the last were
answered, and the failure is the one with which the source refused that. So there is no failure of
the resolution's own that is not a cycle. -/
theorem resolveWithin_failed (source : Source σ) (depth : Nat) (m : Description)
    (hp : Reachable p.memo) {f : Failure}
    (h : resolveWithin source depth m p = (.error (.failed f), p')) :
    (∃ names, p'.memo.requested = p.memo.requested ++ names ∧
      p'.state = source.after names p.state ∧
      ((∃ (ds : List Description) (n : String) (rest : List String),
          source.outcomes names p.state = ds.map .ok ∧
          f = .cycle (n :: rest ++ [n]) ∧ (n :: rest).Nodup ∧
          ∀ x ∈ n :: rest, x = m.name ∨ ∃ d ∈ ds, d.name = x) ∨
        ∃ (earlier : List String) (last : String) (ds : List Description),
          names = earlier ++ [last] ∧ source.outcomes earlier p.state = ds.map .ok ∧
          (source.fetch last (source.after earlier p.state)).outcome = .error f)) ∧
    ((∀ n s text, (source.fetch n s).outcome ≠ .error (.internal text)) →
      ∀ text, f ≠ .internal text) := by
  have hpend := hp.pending
  have horigin := originates source depth h (by simp [hpend])
  rw [hpend, List.nil_append] at horigin
  cases horigin with
  | @cycle names ds n rest hall hd hm =>
    refine ⟨⟨names, hall.requested, hall.state,
      .inl ⟨ds, n, rest, hall.outcomes, rfl, hd, fun x hx => ?_⟩⟩, fun _ text => nofun⟩
    simpa using hm x hx
  | @refused names ds last _ q hall hf hreq hstate =>
    refine ⟨⟨names ++ [last], by rw [hreq, hall.requested, List.append_assoc], ?_,
      .inr ⟨names, last, ds, rfl, hall.outcomes, hall.state ▸ hf⟩⟩, ?_⟩
    · rw [hstate, Source.after_append, ← hall.state]
      rfl
    · rintro hnone text rfl
      exact hnone last q.state text hf

/-- A source that answers two requests, under names of its own, and then keeps one waiting. -/
def waning : Source Nat where
  fetch name s :=
    { outcome :=
        if s < 2 then .ok { name := "the " ++ name, depends := .ofNames ["a", "b"] }
        else .error (.timeout name (.ofSeconds 30))
      state := s + 1 }
  reach := 9

def waningRoot : Description := { name := "m", depends := .ofNames ["b"] }

/-- The name that is refused was answered before. -/
theorem resolveWithin_failed_waning : ∃ p' names,
    Reachable ({} : Memo) ∧
    resolveWithin waning 5 waningRoot { state := 0 } =
      (.error (.failed (.timeout "a" (.ofSeconds 30))), p') ∧
    p'.memo.requested = names ∧ names = ["b", "a", "a"] ∧ p'.state = waning.after names 0 ∧
    ∃ earlier last, names = earlier ++ [last] ∧
      (waning.fetch last (waning.after earlier 0)).outcome = .error (.timeout "a" (.ofSeconds 30)) := by
  have ho : (resolveWithin waning 5 waningRoot { state := 0 }).1 =
      .error (.failed (.timeout "a" (.ofSeconds 30))) := by decide +kernel
  have hreq : (resolveWithin waning 5 waningRoot { state := 0 }).2.memo.requested =
      ["b", "a", "a"] := by decide +kernel
  obtain ⟨⟨names, hnames, hstate, hcases⟩, -⟩ :=
    resolveWithin_failed waning 5 waningRoot .empty (Prod.ext ho rfl)
  refine ⟨_, names, .empty, Prod.ext ho rfl, hnames, hnames.symm.trans hreq, hstate, ?_⟩
  rcases hcases with ⟨ds, n, rest, -, hcycle, -⟩ | ⟨earlier, last, ds, hlast, -, hf⟩
  · cases hcycle
  · exact ⟨earlier, last, hlast, hf⟩

end Closure
end ModuleClosure
