import Mathlib.Data.List.Nodup
import ModuleClosure.Proofs.Closure.Memo

/-!
# The frame of a resolution

Whatever comes of a resolution, it leaves the pending names and the entries of the memo as they
were, and settles no name that is pending. The results it works with are the entries of the memo, so
each step has few cases: `Demanded`, `DemandedAll` and `Resolved` list them once for all later
invariants.
-/
namespace ModuleClosure

variable {σ : Type}

theorem nodup_append_singleton {names : List String} {name : String} (h : names.Nodup)
    (hn : name ∉ names) : (names ++ [name]).Nodup :=
  List.concat_eq_append ▸ h.concat hn

namespace Progress

variable (p : Progress σ)

@[simp] theorem memo_report (notices : List Notice) : (p.report notices).memo = p.memo := rfl

@[simp] theorem memo_settle (d : Description) : (p.settle d).memo = p.memo.settle d := rfl

@[simp] theorem memo_receive (name : String) (reply : Reply σ) :
    (p.receive name reply).memo = p.memo.request name := rfl

theorem settle_of_settled {d : Description} (h : p.memo.Settled d.name) : p.settle d = p := by
  rw [settle, Memo.settle_of_settled h]

/-- The progress with which the needs of a description are asked for. -/
def begin (m : Description) : Progress σ :=
  (p.enter m.name).report [.closureBegun m.name m.depends.size m.suggests.size]

/-- The progress after a description is closed. -/
def finish (r : Description) : Progress σ :=
  ((p.settle r).report [.closureDone r.name r.depends.size r.suggests.size]).leave r.name

@[simp] theorem memo_begin (m : Description) : (p.begin m).memo = p.memo.enter m.name := rfl

@[simp] theorem memo_finish (r : Description) :
    (p.finish r).memo = (p.memo.settle r).leave r.name := rfl

end Progress

namespace Closure

/-- What every part of a resolution keeps, and what it may add to the requests. -/
structure Frame (p p' : Progress σ) : Prop where
  pending : p'.memo.pending = p.memo.pending
  settled : ∀ {n d}, p.memo.get? n = some d → p'.memo.get? n = some d
  unsettled : ∀ {n}, n ∈ p.memo.pending → p.memo.get? n = none → p'.memo.get? n = none
  requested : ∃ names, p'.memo.requested = p.memo.requested ++ names ∧
    ∀ n ∈ names, p.memo.get? n = none

namespace Frame

variable {p p₁ p₂ : Progress σ}

theorem refl (p : Progress σ) : Frame p p := ⟨rfl, id, fun _ => id, [], by simp, by simp⟩

theorem keeps_none {n : String} (h : Frame p p₁) (hn : p₁.memo.get? n = none) :
    p.memo.get? n = none := by
  cases hs : p.memo.get? n with
  | none => rfl
  | some d => rw [h.settled hs] at hn; cases hn

theorem trans (h₁ : Frame p p₁) (h₂ : Frame p₁ p₂) : Frame p p₂ where
  pending := h₂.pending.trans h₁.pending
  settled h := h₂.settled (h₁.settled h)
  unsettled hp hn := h₂.unsettled (h₁.pending ▸ hp) (h₁.unsettled hp hn)
  requested := by
    obtain ⟨names₁, he₁, hn₁⟩ := h₁.requested
    obtain ⟨names₂, he₂, hn₂⟩ := h₂.requested
    refine ⟨names₁ ++ names₂, by rw [he₂, he₁, List.append_assoc], fun n hn => ?_⟩
    rcases List.mem_append.mp hn with hn | hn
    · exact hn₁ n hn
    · exact h₁.keeps_none (hn₂ n hn)

theorem report (p : Progress σ) (notices : List Notice) : Frame p (p.report notices) :=
  ⟨rfl, id, fun _ => id, [], by simp, by simp⟩

theorem receive {name : String} (hs : p.memo.get? name = none) (reply : Reply σ) :
    Frame p (p.receive name reply) :=
  ⟨rfl, id, fun _ => id, [name], rfl, by simpa using hs⟩

theorem settle {d : Description} (h : d.name ∉ p.memo.pending) : Frame p (p.settle d) where
  pending := Memo.pending_settle
  settled h := by simp [Memo.get?_settle, h]
  unsettled {n} hn hs := by
    have hne : n ≠ d.name := fun he => h (he ▸ hn)
    simp [Memo.get?_settle, hs, hne]
  requested := ⟨[], by simp, by simp⟩

theorem leave {m : Description} (h : Frame (p.begin m) p₁) : Frame p (p₁.leave m.name) where
  pending := Memo.pending_leave h.pending
  settled := h.settled
  unsettled hn := h.unsettled (List.mem_append_left _ hn)
  requested := h.requested

/-- A description is settled under its own name, which was not pending before. -/
theorem finish {m r : Description} (hp : m.name ∉ p.memo.pending) (hr : r.name = m.name)
    (h : Frame (p.begin m) p₁) : Frame p (p₁.finish r) where
  pending := Memo.pending_leave (by rw [hr]; simpa using h.pending)
  settled hs := by simp [Memo.get?_settle, h.settled hs]
  unsettled {n} hn hs := by
    have hne : n ≠ r.name := fun he => hp (hr ▸ he ▸ hn)
    simp [Memo.get?_settle, h.unsettled (List.mem_append_left _ hn) hs, hne]
  requested := by simpa using h.requested

end Frame

/-- A way to resolve what a source answers that keeps the frame and settles what it resolves. -/
def Framed (nested : Description → Step σ Description) : Prop :=
  ∀ ⦃m p o p'⦄, nested m p = (o, p') →
    Frame p p' ∧ ∀ r, o = .ok r → r.name = m.name ∧ p'.memo.Settled m.name

/-- What asking for a name comes to. -/
inductive Demanded (source : Source σ) (nested : Description → Step σ Description) (name : String)
    (p : Progress σ) : Except Stop Description → Progress σ → Prop
  | settled {d} (hs : p.memo.get? name = some d) : Demanded source nested name p (.ok d) p
  | cycle (hs : p.memo.get? name = none) (hp : name ∈ p.memo.pending) :
      Demanded source nested name p (.error (.failed (.cycle (p.memo.cycleTo name)))) p
  | refused {f} (hs : p.memo.get? name = none) (hp : name ∉ p.memo.pending)
      (hf : (source.fetch name p.state).outcome = .error f) :
      Demanded source nested name p (.error (.failed f)) (p.receive name (source.fetch name p.state))
  | stopped {found stop p'} (hs : p.memo.get? name = none) (hp : name ∉ p.memo.pending)
      (hf : (source.fetch name p.state).outcome = .ok found)
      (hn : nested found (p.receive name (source.fetch name p.state)) = (.error stop, p')) :
      Demanded source nested name p (.error stop) p'
  | answered {found r p' d} (hs : p.memo.get? name = none) (hp : name ∉ p.memo.pending)
      (hf : (source.fetch name p.state).outcome = .ok found)
      (hn : nested found (p.receive name (source.fetch name p.state)) = (.ok r, p'))
      (hd : (p'.memo.settle { r with name }).get? name = some d) :
      Demanded source nested name p (.ok d) (p'.settle { r with name })

/-- What asking for names in order comes to. -/
inductive DemandedAll (source : Source σ) (nested : Description → Step σ Description)
    (m : Description) :
    List String → Progress σ → Except Stop (List Description) → Progress σ → Prop
  | nil {p} : DemandedAll source nested m [] p (.ok []) p
  | stopped {name names p stop p'} (hd : Demanded source nested name p (.error stop) p') :
      DemandedAll source nested m (name :: names) p (.error stop) p'
  | cons {name names p d p₁ o p₂} (hd : Demanded source nested name p (.ok d) p₁)
      (hr : DemandedAll source nested m names (p₁.report (m.boundNotices d)) o p₂) :
      DemandedAll source nested m (name :: names) p (o.map (d :: ·)) p₂

variable {source : Source σ} {nested : Description → Step σ Description} {m : Description}
  {name : String} {names : List String} {p p' : Progress σ}

theorem demanded (hn : Framed nested) {o} (h : demand source nested name p = (o, p')) :
    Demanded source nested name p o p' := by
  unfold demand at h
  split at h
  · cases h
    exact .settled ‹_›
  split at h
  · cases h
    exact .cycle ‹_› ‹_›
  dsimp only at h
  split at h
  · cases h
    exact .refused ‹_› ‹_› ‹_›
  split at h
  · cases h
    exact .stopped ‹_› ‹_› ‹_› ‹_›
  rename_i hs hp _ found hf _ r p₁ hr
  -- Settling under the name that was asked for does nothing if it is the declared name.
  have hp₂ : (if r.name = name then p₁ else p₁.settle { r with name }) =
      p₁.settle { r with name } := by
    split
    · rename_i hname
      have hset := ((hn hr).2 r rfl).2
      rw [← ((hn hr).2 r rfl).1, hname] at hset
      rw [Progress.settle_of_settled p₁ hset]
    · rfl
  rw [hp₂] at h
  split at h
  · cases h
    exact .answered hs hp hf hr ‹_›
  · rename_i hnone
    have hset : (p₁.memo.settle { r with name }).Settled name := Memo.settled_settle.mpr (.inr rfl)
    exact absurd hnone (mt Memo.not_settled.mpr (not_not_intro hset))

theorem demandedAll (hn : Framed nested) {o} (h : demandAll source nested m names p = (o, p')) :
    DemandedAll source nested m names p o p' := by
  induction names generalizing p o with
  | nil =>
    cases h
    exact .nil
  | cons name names ih =>
    unfold demandAll at h
    split at h
    · cases h
      exact .stopped (demanded hn ‹_›)
    split at h
    · cases h
      exact .cons (o := .error _) (demanded hn ‹_›) (ih ‹_›)
    · cases h
      exact .cons (o := .ok _) (demanded hn ‹_›) (ih ‹_›)

theorem Demanded.frame (hn : Framed nested) {o} (h : Demanded source nested name p o p') :
    Frame p p' := by
  cases h with
  | settled => exact .refl p
  | cycle => exact .refl p
  | refused hs hp hf => exact .receive hs _
  | stopped hs hp hf hr => exact (Frame.receive hs _).trans (hn hr).1
  | answered hs hp hf hr hd =>
    have hframe := (Frame.receive hs _).trans (hn hr).1
    exact hframe.trans (.settle (by rwa [hframe.pending]))

theorem Demanded.of_settled {o d} (h : Demanded source nested name p o p')
    (hs : p.memo.get? name = some d) : o = .ok d ∧ p' = p := by
  cases h with
  | settled hs' =>
    cases hs.symm.trans hs'
    exact ⟨rfl, rfl⟩
  | cycle hn => cases hs.symm.trans hn
  | refused hn => cases hs.symm.trans hn
  | stopped hn => cases hs.symm.trans hn
  | answered hn => cases hs.symm.trans hn

section Unsettled

variable {o : Except Stop Description} (h : Demanded source nested name p o p')
  (hs : p.memo.get? name = none)
include h hs

theorem Demanded.of_pending (hp : name ∈ p.memo.pending) :
    o = .error (.failed (.cycle (p.memo.cycleTo name))) := by
  cases h with
  | settled hs' => cases hs.symm.trans hs'
  | cycle => rfl
  | refused _ hp' => exact absurd hp hp'
  | stopped _ hp' => exact absurd hp hp'
  | answered _ hp' => exact absurd hp hp'

theorem Demanded.of_refused {f} (hp : name ∉ p.memo.pending)
    (hf : (source.fetch name p.state).outcome = .error f) : o = .error (.failed f) := by
  cases h with
  | settled hs' => cases hs.symm.trans hs'
  | cycle _ hp' => exact absurd hp' hp
  | refused _ _ hf' =>
    cases hf.symm.trans hf'
    rfl
  | stopped _ _ hf' => cases hf.symm.trans hf'
  | answered _ _ hf' => cases hf.symm.trans hf'

theorem Demanded.of_found {found} (hp : name ∉ p.memo.pending)
    (hf : (source.fetch name p.state).outcome = .ok found) :
    (∃ stop, nested found (p.receive name (source.fetch name p.state)) = (.error stop, p') ∧
      o = .error stop) ∨
    ∃ r p₁ d, nested found (p.receive name (source.fetch name p.state)) = (.ok r, p₁) ∧
      p' = p₁.settle { r with name } ∧ o = .ok d ∧ p'.memo.get? name = some d := by
  cases h with
  | settled hs' => cases hs.symm.trans hs'
  | cycle _ hp' => exact absurd hp' hp
  | refused _ _ hf' => cases hf.symm.trans hf'
  | stopped _ _ hf' hn =>
    cases hf.symm.trans hf'
    exact .inl ⟨_, hn, rfl⟩
  | answered _ _ hf' hn hd =>
    cases hf.symm.trans hf'
    exact .inr ⟨_, _, _, hn, rfl, rfl, hd⟩

end Unsettled

theorem Demanded.get? {d} (h : Demanded source nested name p (.ok d) p') :
    p'.memo.get? name = some d := by
  cases h with
  | settled hs => exact hs
  | answered hs hp hf hr hd => exact hd

theorem DemandedAll.frame (hn : Framed nested) {o} (h : DemandedAll source nested m names p o p') :
    Frame p p' := by
  induction h with
  | nil => exact .refl _
  | stopped hd => exact hd.frame hn
  | cons hd hr ih => exact ((hd.frame hn).trans (.report _ _)).trans ih

/-- Induction on a run in which each name gets a description. -/
@[elab_as_elim]
theorem DemandedAll.induction_ok
    {motive : ∀ names p ds p', DemandedAll source nested m names p (.ok ds) p' → Prop}
    {names p ds p'} (h : DemandedAll source nested m names p (.ok ds) p')
    (nil : ∀ p, motive [] p [] p .nil)
    (cons : ∀ {name names p d p₁ ds p₂} (hd : Demanded source nested name p (.ok d) p₁)
      (hr : DemandedAll source nested m names (p₁.report (m.boundNotices d)) (.ok ds) p₂),
      motive names _ ds p₂ hr → motive (name :: names) p (d :: ds) p₂ (.cons (o := .ok ds) hd hr)) :
    motive names p ds p' h := by
  have hall : ∀ {names p o p'} (h : DemandedAll source nested m names p o p') ds
      (ho : o = .ok ds), motive names p ds p' (ho ▸ h) := by
    intro names p o p' h
    induction h with
    | nil => intro ds ho; cases ho; exact nil _
    | stopped => intro ds ho; cases ho
    | @cons _ _ _ _ _ o _ hd hr ih =>
      intro ds ho
      cases o with
      | error stop => cases ho
      | ok ds => cases ho; exact cons hd hr (ih ds rfl)
  exact hall h ds rfl

/-- What is returned for names is what the memo holds for them in the end. -/
theorem DemandedAll.results (hn : Framed nested) {ds}
    (h : DemandedAll source nested m names p (.ok ds) p') :
    names.map p'.memo.get? = ds.map some := by
  induction h using DemandedAll.induction_ok with
  | nil => rfl
  | cons hd hr ih => rw [List.map_cons, List.map_cons, ih, (hr.frame hn).settled hd.get?]

theorem DemandedAll.settled (hn : Framed nested) {ds}
    (h : DemandedAll source nested m names p (.ok ds) p') {n : String} (hmem : n ∈ names) :
    p'.memo.Settled n := by
  have hget : p'.memo.get? n ∈ ds.map some := h.results hn ▸ List.mem_map_of_mem hmem
  obtain ⟨d, -, hd⟩ := List.mem_map.mp hget
  exact ⟨d, hd.symm⟩

theorem DemandedAll.stopped_append {stop} (rest : List String)
    (h : DemandedAll source nested m names p (.error stop) p') :
    DemandedAll source nested m (names ++ rest) p (.error stop) p' := by
  generalize ho : (Except.error stop : Except Stop (List Description)) = o at h
  induction h with
  | nil => cases ho
  | stopped hd => cases ho; exact .stopped hd
  | @cons _ _ _ _ _ o _ hd hr ih =>
    cases o with
    | error stop => cases ho; exact .cons (o := .error _) hd (ih rfl)
    | ok ds => cases ho

theorem DemandedAll.append {ds names' p₁ o}
    (h : DemandedAll source nested m names p (.ok ds) p₁)
    (h' : DemandedAll source nested m names' p₁ o p') :
    DemandedAll source nested m (names ++ names') p (o.map (ds ++ ·)) p' := by
  induction h using DemandedAll.induction_ok with
  | nil => cases o <;> exact h'
  | @cons _ _ _ d _ ds _ hd hr ih =>
    have hmap : o.map (d :: ds ++ ·) = (o.map (ds ++ ·)).map (d :: ·) := by cases o <;> rfl
    rw [hmap]
    exact .cons hd (ih h')

private theorem filterMap_eq_of_map_eq {memo : Memo} {ds : List Description}
    (h : names.map memo.get? = ds.map some) : names.filterMap memo.get? = ds := by
  have hid : names.filterMap memo.get? = (names.map memo.get?).filterMap id := by
    simp [List.filterMap_map]
  rw [hid, h, List.filterMap_map]
  exact List.filterMap_some

/-- What a resolution comes to. Its result is the closure over the memo it ends with. -/
inductive Resolved (source : Source σ) (m : Description) (p : Progress σ) :
    Nat → Except Stop Description → Progress σ → Prop
  | cycle {depth} (hp : m.name ∈ p.memo.pending) :
      Resolved source m p depth (.error (.failed (.cycle (p.memo.cycleTo m.name)))) p
  | tooDeep (hp : m.name ∉ p.memo.pending) : Resolved source m p 0 (.error .tooDeep) p
  | stopped {depth stop p'} (hp : m.name ∉ p.memo.pending)
      (ha : DemandedAll source (resolveWithin source depth) m m.needs (p.begin m) (.error stop) p') :
      Resolved source m p (depth + 1) (.error stop) (p'.leave m.name)
  | done {depth ds p'} (hp : m.name ∉ p.memo.pending)
      (ha : DemandedAll source (resolveWithin source depth) m m.needs (p.begin m) (.ok ds) p') :
      Resolved source m p (depth + 1) (.ok (p'.memo.closureOf m)) (p'.finish (p'.memo.closureOf m))

private theorem resolved_succ {depth : Nat} (hn : Framed (resolveWithin source depth)) {o}
    (h : resolveWithin source (depth + 1) m p = (o, p')) : Resolved source m p (depth + 1) o p' := by
  unfold resolveWithin at h
  split at h
  · cases h
    exact .cycle ‹_›
  rename_i hp
  dsimp only [close] at h
  split at h
  · cases h
    exact .stopped hp ((demandedAll hn ‹_›).stopped_append _)
  rename_i required p₁ hreq
  have hreq := demandedAll hn hreq
  split at h
  · cases h
    exact .stopped hp (hreq.append (demandedAll hn ‹_›))
  rename_i suggested p₂ hsug
  have hsug := demandedAll hn hsug
  cases h
  have hall := hreq.append hsug
  have hmap := hall.results hn
  rw [List.map_append, List.map_append] at hmap
  have hlen : m.depends.toList.length = required.length := by
    simpa using congrArg List.length (hreq.results hn)
  obtain ⟨hd, hs⟩ := List.append_inj hmap (by simpa using hlen)
  have hr : m.closedOver required suggested = p₂.memo.closureOf m := by
    rw [Memo.closureOf, filterMap_eq_of_map_eq hd, filterMap_eq_of_map_eq hs]
  rw [hr]
  exact .done hp hall

private theorem resolved_zero {o} (h : resolveWithin source 0 m p = (o, p')) :
    Resolved source m p 0 o p' := by
  unfold resolveWithin at h
  split at h <;> cases h
  · exact .cycle ‹_›
  · exact .tooDeep ‹_›

/-- Resolutions of any depth keep the frame and settle what they resolve. -/
theorem framed (source : Source σ) (depth : Nat) : Framed (resolveWithin source depth) := by
  induction depth with
  | zero =>
    intro m p o p' h
    cases resolved_zero h with
    | cycle => exact ⟨.refl p, fun _ h => nomatch h⟩
    | tooDeep => exact ⟨.refl p, fun _ h => nomatch h⟩
  | succ depth ih =>
    intro m p o p' h
    cases resolved_succ ih h with
    | cycle => exact ⟨.refl p, fun _ h => nomatch h⟩
    | stopped hp ha => exact ⟨(ha.frame ih).leave, fun _ h => nomatch h⟩
    | done hp ha =>
      refine ⟨(ha.frame ih).finish hp rfl, fun r hr => ?_⟩
      cases hr
      exact ⟨rfl, Memo.settled_settle.mpr (.inr rfl)⟩

theorem resolved {depth : Nat} {o} (h : resolveWithin source depth m p = (o, p')) :
    Resolved source m p depth o p' := by
  cases depth with
  | zero => exact resolved_zero h
  | succ depth => exact resolved_succ (framed source depth) h

/-- A description of a pending name is not resolved. -/
theorem Resolved.of_pending {depth : Nat} {o} (h : Resolved source m p depth o p')
    (hp : m.name ∈ p.memo.pending) :
    o = .error (.failed (.cycle (p.memo.cycleTo m.name))) ∧ p' = p := by
  cases h with
  | cycle => exact ⟨rfl, rfl⟩
  | tooDeep hn => exact absurd hp hn
  | stopped hn => exact absurd hp hn
  | done hn => exact absurd hp hn

/-- A resolved description has an entry: the one that was there before, or else the result. -/
theorem Resolved.get? {depth : Nat} {o} (h : Resolved source m p depth o p') {r : Description}
    (ho : o = .ok r) : p'.memo.get? m.name = some ((p.memo.get? m.name).getD r) := by
  cases h with
  | cycle => cases ho
  | tooDeep => cases ho
  | stopped => cases ho
  | @done depth ds p₁ hp ha =>
    cases ho
    have hframe := ha.frame (framed source depth)
    rw [Progress.memo_finish, Memo.get?_leave, Memo.get?_settle]
    cases hs : p.memo.get? m.name with
    | none => simp [hframe.unsettled (by simp) hs]
    | some e => simp [hframe.settled hs]

/-- Whatever a resolution starts from and comes to, the pending names and the entries stay as they
were, and what is asked for beyond the earlier requests had no entry. A result is settled under its
name, unless there was an entry before, which stays. -/
theorem resolveWithin_frame (source : Source σ) (depth : Nat) (m : Description) {o}
    (h : resolveWithin source depth m p = (o, p')) :
    p'.memo.pending = p.memo.pending ∧
    (∀ n d, p.memo.get? n = some d → p'.memo.get? n = some d) ∧
    (∃ names, p'.memo.requested = p.memo.requested ++ names ∧
      ∀ n ∈ names, p.memo.get? n = none) ∧
    ∀ r, o = .ok r →
      (p.memo.get? m.name = none → p'.memo.get? m.name = some r) ∧
      ∀ e, p.memo.get? m.name = some e → p'.memo.get? m.name = some e := by
  obtain ⟨hframe, -⟩ := framed source depth h
  refine ⟨hframe.pending, fun n d => hframe.settled, hframe.requested, fun r hr => ⟨fun hs => ?_, ?_⟩⟩
  · rw [(resolved h).get? hr, hs, Option.getD_none]
  · exact fun e => hframe.settled

/-- A memo in use, with an older entry for `m`. -/
def usedMemo : Memo where
  settled := .ofEntries [("b", { name := "b" }), ("m", { name := "m", version := some "1.0" })]
  pending := ["x", "y"]
  requested := ["b"]

def usedRoot : Description := { name := "m", version := some "2.0", depends := .ofNames ["a", "b"] }

def leaf : Source Unit where
  fetch name _ := { outcome := if name = "a" then .ok { name } else .error (.noAddress name), state := () }
  reach := 1

theorem resolveWithin_frame_used : ∃ p',
    resolveWithin leaf 2 usedRoot { memo := usedMemo, state := () } = (.ok usedRoot, p') ∧
      p'.memo.pending = ["x", "y"] ∧ p'.memo.requested = ["b", "a"] ∧
      p'.memo.get? "m" = some { name := "m", version := some "1.0" } := by
  have ho : (resolveWithin leaf 2 usedRoot { memo := usedMemo, state := () }).1 = .ok usedRoot := by
    decide +kernel
  obtain ⟨hpending, -, -, hentry⟩ := resolveWithin_frame leaf 2 usedRoot (Prod.ext ho rfl)
  exact ⟨_, Prod.ext ho rfl, hpending, by decide +kernel, (hentry _ rfl).2 _ (by decide +kernel)⟩

end Closure
end ModuleClosure
