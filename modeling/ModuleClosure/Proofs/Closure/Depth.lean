import Mathlib.Data.Finset.Card
import ModuleClosure.Proofs.Closure.Frame

/-!
# The depth of a resolution

The resolutions inside one another are those of the pending names, which differ from one another and
are the root's or names that the source declares. So they are at most as many as there are such
names. A resolution for which the depth is not enough is inside that many others, hence a depth of
the number of names is always enough.
-/
namespace ModuleClosure.Closure

variable {σ : Type}

/-- The names that a source declares are among the given ones. -/
def Declares (source : Source σ) (known : List String) : Prop :=
  ∀ name s d, (source.fetch name s).outcome = .ok d → d.name ∈ known

/-- A resolution that is begun directly inside that of `m`: of what the source answers to a need that
is neither settled nor pending by then. -/
inductive Begins (source : Source σ) (depth : Nat) (m : Description) (p : Progress σ) :
    Description → Progress σ → Prop
  | need {before name after ds d q} (hm : m.needs = before ++ name :: after)
      (hp : m.name ∉ p.memo.pending)
      (hb : DemandedAll source (resolveWithin source depth) m before (p.begin m) (.ok ds) q)
      (hs : q.memo.get? name = none) (hq : name ∉ q.memo.pending)
      (hf : (source.fetch name q.state).outcome = .ok d) :
      Begins source depth m p d (q.receive name (source.fetch name q.state))

/-- While `m` is resolved with progress `p`, the resolution of `d` with progress `q` is begun, inside
those of `outer`. -/
inductive Inside (source : Source σ) :
    Nat → Description → Progress σ → List Description → Description → Progress σ → Prop
  | root {depth m p} : Inside source depth m p [] m p
  | within {depth m p m' p' outer d q} (hb : Begins source depth m p m' p')
      (hi : Inside source depth m' p' outer d q) :
      Inside source (depth + 1) m p (m :: outer) d q

variable {source : Source σ} {nested : Description → Step σ Description}
  {m d : Description} {name : String} {names known : List String} {depth : Nat}
  {outer : List Description} {p p' q : Progress σ}

section Bound

theorem Begins.pending (h : Begins source depth m p d q) :
    m.name ∉ p.memo.pending ∧ q.memo.pending = p.memo.pending ++ [m.name] := by
  cases h with
  | need hm hp hb => exact ⟨hp, (hb.frame (framed source depth)).pending⟩

theorem Begins.declared (hdecl : Declares source known) (h : Begins source depth m p d q) :
    d.name ∈ known := by
  cases h with
  | need hm hp hb hs hq hf => exact hdecl _ _ _ hf

/-- The pending names are those of the resolutions around, and they differ from one another. -/
theorem Inside.pending (h : Inside source depth m p outer d q) (hd : p.memo.pending.Nodup) :
    q.memo.pending = p.memo.pending ++ outer.map (·.name) ∧ q.memo.pending.Nodup := by
  induction h with
  | root => exact ⟨by simp, hd⟩
  | @within depth m p m' p' outer d q hb hi ih =>
    obtain ⟨hm, hpend⟩ := hb.pending
    have hnodup : p'.memo.pending.Nodup := hpend ▸ nodup_append_singleton hd hm
    obtain ⟨hq, hqd⟩ := ih hnodup
    exact ⟨by rw [hq, hpend, List.map_cons, List.append_assoc, List.singleton_append], hqd⟩

/-- What is resolved on the way is the root or has been declared by the source. -/
theorem Inside.name_mem (hdecl : Declares source known) (h : Inside source depth m p outer d q) :
    ∀ e ∈ outer ++ [d], e.name ∈ m.name :: known := by
  induction h with
  | root => simp
  | @within depth m p m' p' outer d q hb hi ih =>
    have hsub : m'.name :: known ⊆ m.name :: known :=
      List.cons_subset.mpr ⟨List.mem_cons_of_mem _ (hb.declared hdecl), List.subset_cons_self _ _⟩
    exact List.forall_mem_cons.mpr ⟨List.mem_cons_self, fun e he => hsub (ih e he)⟩

theorem length_le_card {l : List String} (hd : l.Nodup) (hsub : ∀ x ∈ l, x ∈ known) :
    l.length ≤ known.toFinset.card := by
  rw [← List.toFinset_card_of_nodup hd]
  exact Finset.card_le_card fun x hx => List.mem_toFinset.mpr (hsub x (List.mem_toFinset.mp hx))

/-- From no pending names, the resolutions inside one another are no more than there are names. -/
theorem Inside.length_le (hdecl : Declares source known) (hp : p.memo.pending = [])
    (h : Inside source depth m p outer d q) :
    outer.length ≤ (m.name :: known).toFinset.card ∧
      (d.name ∉ q.memo.pending → outer.length < (m.name :: known).toFinset.card) := by
  obtain ⟨hpend, hnodup⟩ := h.pending (by simp [hp])
  rw [hp, List.nil_append] at hpend
  have hlength : outer.length = q.memo.pending.length := by rw [hpend, List.length_map]
  obtain ⟨houter, hd⟩ := List.forall_mem_append.mp (h.name_mem hdecl)
  have hsub : ∀ x ∈ q.memo.pending, x ∈ m.name :: known := by
    rw [hpend]
    exact List.forall_mem_map.mpr houter
  rw [hlength]
  refine ⟨length_le_card hnodup hsub, fun hnew => ?_⟩
  exact length_le_card (List.nodup_cons.mpr ⟨hnew, hnodup⟩)
    (List.forall_mem_cons.mpr ⟨hd d List.mem_cons_self, hsub⟩)

end Bound

section Enough

/-- Asking for names stops at one of them. -/
theorem DemandedAll.stopped_at {stop}
    (h : DemandedAll source nested m names p (.error stop) p') :
    ∃ before name after ds q, names = before ++ name :: after ∧
      DemandedAll source nested m before p (.ok ds) q ∧
      Demanded source nested name q (.error stop) p' := by
  generalize ho : (Except.error stop : Except Stop (List Description)) = o at h
  induction h with
  | nil => cases ho
  | @stopped name names p _ _ hd =>
    cases ho
    exact ⟨[], name, names, [], p, rfl, .nil, hd⟩
  | @cons name _ _ d _ o _ hd hr ih =>
    cases o with
    | error stop =>
      cases ho
      obtain ⟨before, next, after, ds, q, hnames, hb, hn⟩ := ih rfl
      exact ⟨name :: before, next, after, d :: ds, q, congrArg (name :: ·) hnames,
        .cons (o := .ok ds) hd hb, hn⟩
    | ok ds => cases ho

/-- Where the depth is not enough, a resolution is begun inside that many others. -/
theorem exists_inside_of_tooDeep (h : resolveWithin source depth m p = (.error .tooDeep, p')) :
    ∃ outer d q, Inside source depth m p outer d q ∧ outer.length = depth ∧
      d.name ∉ q.memo.pending := by
  induction depth generalizing m p p' with
  | zero =>
    cases resolved h with
    | tooDeep hp => exact ⟨[], m, p, .root, rfl, hp⟩
  | succ depth ih =>
    cases resolved h with
    | stopped hp ha =>
      obtain ⟨before, name, after, ds, q, hm, hb, hd⟩ := ha.stopped_at
      cases hd with
      | stopped hs hq hf hr =>
        obtain ⟨outer, d, q', hi, hlength, hnew⟩ := ih hr
        exact ⟨m :: outer, d, q', .within (.need hm hp hb hs hq hf) hi, congrArg (· + 1) hlength, hnew⟩

/-- From no pending names, a depth of the number of names is enough. -/
theorem resolveWithin_ne_tooDeep_of_card {o} (hdecl : Declares source known)
    (hdepth : (m.name :: known).toFinset.card ≤ depth) (hp : p.memo.pending = [])
    (h : resolveWithin source depth m p = (o, p')) : o ≠ .error .tooDeep := by
  rintro rfl
  obtain ⟨outer, d, q, hi, hlength, hnew⟩ := exists_inside_of_tooDeep h
  have hlt := (hi.length_le hdecl hp).2 hnew
  omega

/-- From no pending names, a depth of more than the names that the source declares is enough. -/
theorem resolveWithin_ne_tooDeep {o} (hdecl : Declares source known) (hdepth : known.length < depth)
    (hp : p.memo.pending = []) (h : resolveWithin source depth m p = (o, p')) :
    o ≠ .error .tooDeep :=
  resolveWithin_ne_tooDeep_of_card hdecl ((List.toFinset_card_le _).trans hdepth) hp h

/-- The depth that a source allows is enough if it reaches the names that the source declares. -/
theorem resolve_ne_tooDeep {o} (hdecl : Declares source known) (hreach : known.length ≤ source.reach)
    (hp : p.memo.pending = []) (h : resolve source m p = (o, p')) : o ≠ .error .tooDeep :=
  resolveWithin_ne_tooDeep hdecl (Nat.lt_succ_of_le hreach) hp h

end Enough

end ModuleClosure.Closure
