import ModuleClosure.Proofs.Closure.Depth
import ModuleClosure.Proofs.Closure.Graph

/-!
# Resolutions over a table

Over a table the graph of needs decides what a resolution comes to. If the root is founded the
result is its closure, and all it leads to is settled; if not, asking for it fails as `Fails` says.
The memo may hold closures from earlier resolutions: they have no part in the outcome.
-/
namespace ModuleClosure.Closure
open Relation ModuleClosure.Graph

variable {modules w : NameMap Description}

section Fetching

variable {n : String} {asked : List String} {d : Description} {f : Failure}

theorem fetch_table_eq_ok_iff :
    ((Source.table modules).fetch n asked).outcome = .ok d ↔ modules[n]? = some d := by
  cases hm : modules[n]? <;> simp [Source.table, hm]

theorem fetch_table_eq_error_iff :
    ((Source.table modules).fetch n asked).outcome = .error f ↔
      modules[n]? = none ∧ f = .noAddress n := by
  cases hm : modules[n]? <;> simp [Source.table, hm, eq_comm]

end Fetching

/-- Descriptions are kept under their own names. -/
def Named (w : NameMap Description) : Prop := ∀ ⦃n d⦄, w[n]? = some d → Description.name d = n

/-- Off the pending names a table answers with the descriptions of the graph. -/
structure Serves (modules w : NameMap Description) (pending : List String) : Prop where
  own : Named w
  agrees : ∀ {n : String}, n ∉ pending → modules[n]? = w[n]?

theorem Serves.append {pending : List String} (h : Serves modules w pending) (names : List String) :
    Serves modules w (pending ++ names) where
  own := h.own
  agrees hn := h.agrees fun hmem => hn (List.mem_append_left _ hmem)

/-- The entries of a memo are closures, and what they need is settled too. -/
structure Faithful (w : NameMap Description) (memo : Memo) : Prop where
  entry : ∀ {n e}, memo.get? n = some e → IsClosure w n e
  needs : ∀ {n x}, memo.Settled n → Needs w n x → memo.Settled x

namespace Faithful

variable {memo memo' : Memo} {d : Description} {n x : String}

theorem empty : Faithful w {} where
  entry h := by simp at h
  needs h := by simp [Memo.Settled] at h

theorem congr (h : Faithful w memo) (hget : ∀ n, memo'.get? n = memo.get? n) : Faithful w memo' where
  entry he := h.entry (hget _ ▸ he)
  needs hs hx := by
    have hsx := h.needs (by simpa only [Memo.Settled, hget] using hs) hx
    simpa only [Memo.Settled, hget] using hsx

theorem reaches (h : Faithful w memo) (hs : memo.Settled n) (hx : ReflTransGen (Needs w) n x) :
    memo.Settled x := by
  induction hx with
  | refl => exact hs
  | tail _ hedge ih => exact h.needs ih hedge

theorem settle (h : Faithful w memo) (hd : IsClosure w d.name d)
    (hx : ∀ x, Needs w d.name x → memo.Settled x) : Faithful w (memo.settle d) where
  entry {n e} he := by
    rcases Memo.get?_settle_cases he with he | ⟨rfl, rfl⟩
    · exact h.entry he
    · exact hd
  needs hs hedge := by
    rw [Memo.settled_settle] at hs ⊢
    rcases hs with hs | rfl
    · exact .inl (h.needs hs hedge)
    · exact .inl (hx _ hedge)

end Faithful

/-- What asking for a name comes to, and what is settled by then. -/
inductive Traced (w : NameMap Description) (path : List String) (name : String)
    (memo memo' : Memo) : Except Stop Description → Prop
  | closed {r} (hr : IsClosure w name r)
      (hs : ∀ n, memo'.Settled n ↔ memo.Settled n ∨ ReflTransGen (Needs w) name n) :
      Traced w path name memo memo' (.ok r)
  | failed {f done} (hf : Fails w path name f done)
      (hs : ∀ n, memo'.Settled n ↔ memo.Settled n ∨ n ∈ done) :
      Traced w path name memo memo' (.error (.failed f))
  | tooDeep : Traced w path name memo memo' (.error .tooDeep)

/-- What asking for names in order comes to, and what is settled by then. -/
inductive TracedAll (w : NameMap Description) (path names : List String) (memo memo' : Memo) :
    Except Stop (List Description) → Prop
  | closed {ds} (hn : ∀ x ∈ names, Founded w x)
      (hs : ∀ n, memo'.Settled n ↔
        memo.Settled n ∨ ∃ y ∈ names, ReflTransGen (Needs w) y n) :
      TracedAll w path names memo memo' (.ok ds)
  | failed {before next after f done} (hm : names = before ++ next :: after)
      (hb : ∀ x ∈ before, Founded w x) (hf : Fails w path next f done)
      (hs : ∀ n, memo'.Settled n ↔
        memo.Settled n ∨ (∃ y ∈ before, ReflTransGen (Needs w) y n) ∨ n ∈ done) :
      TracedAll w path names memo memo' (.error (.failed f))
  | tooDeep : TracedAll w path names memo memo' (.error .tooDeep)

section Outcomes

variable {path names : List String} {name : String} {memo memo₁ memo' : Memo}

theorem Traced.of_request {asked : String} {o}
    (h : Traced w path name (memo.request asked) memo' o) : Traced w path name memo memo' o := by
  cases h with
  | closed hr hs => exact .closed hr hs
  | failed hf hs => exact .failed hf hs
  | tooDeep => exact .tooDeep

theorem Traced.all_of_error {stop : Stop} (rest : List String)
    (h : Traced w path name memo memo' (.error stop)) :
    TracedAll w path (name :: rest) memo memo' (.error stop) := by
  cases h with
  | failed hf hs =>
    exact .failed (List.nil_append (name :: rest)).symm (by simp) hf (by simpa using hs)
  | tooDeep => exact .tooDeep

theorem TracedAll.cons {d : Description} {o} (hd : Traced w path name memo memo₁ (.ok d))
    (h : TracedAll w path names memo₁ memo' o) :
    TracedAll w path (name :: names) memo memo' (o.map (d :: ·)) := by
  cases hd with
  | closed hr hs =>
    cases h with
    | closed hn hs' =>
      refine .closed (List.forall_mem_cons.mpr ⟨hr.founded, hn⟩) fun n => ?_
      rw [hs', hs, or_assoc, List.exists_mem_cons_iff]
    | failed hm hb hf hs' =>
      refine .failed (congrArg (name :: ·) hm) (List.forall_mem_cons.mpr ⟨hr.founded, hb⟩) hf
        fun n => ?_
      rw [hs', hs, List.exists_mem_cons_iff, or_assoc, or_assoc]
    | tooDeep => exact .tooDeep

end Outcomes

variable {nested : Description → Step (List String) Description} {m : Description} {name : String}
  {names : List String} {p p' : Progress (List String)}

/-- A way to resolve that follows the graph and settles closures only. -/
def Follows (modules w : NameMap Description)
    (nested : Description → Step (List String) Description) : Prop :=
  ∀ ⦃m p o p'⦄, nested m p = (o, p') → w[m.name]? = some m → m.name ∉ p.memo.pending →
    Serves modules w (p.memo.pending ++ [m.name]) → Faithful w p.memo →
      Faithful w p'.memo ∧ Traced w p.memo.pending m.name p.memo p'.memo o

/-- What comes back for a name over a table: its entry, or what the table holds for it, resolved. -/
theorem Demanded.cases_of_ok (hframed : Framed nested) (hserves : Serves modules w p.memo.pending) {d}
    (h : Demanded (Source.table modules) nested name p (.ok d) p') :
    (p.memo.get? name = some d ∧ p' = p) ∨
    ∃ m r, w[name]? = some m ∧ m.name = name ∧ name ∉ p.memo.pending ∧ p.memo.get? name = none ∧
      nested m (p.receive name ((Source.table modules).fetch name p.state)) = (.ok r, p') ∧
      p'.memo.get? name = some d := by
  cases h with
  | settled hs => exact .inl ⟨hs, rfl⟩
  | @answered found r p₁ d hs hpend hf hr hd =>
    have hw := hserves.agrees hpend ▸ fetch_table_eq_ok_iff.mp hf
    obtain rfl := hserves.own hw
    -- The name is settled by now, so settling it again does nothing.
    have hsettle : p₁.settle { r with name := found.name } = p₁ :=
      p₁.settle_of_settled ((hframed hr).2 r rfl).2
    rw [hsettle]
    exact .inr ⟨found, r, hw, rfl, hpend, hs, hr, by simpa only [← Progress.memo_settle, hsettle] using hd⟩

theorem Demanded.traced (hframed : Framed nested) (hn : Follows modules w nested) {o}
    (h : Demanded (Source.table modules) nested name p o p')
    (hserves : Serves modules w p.memo.pending) (hp : Faithful w p.memo) :
    Faithful w p'.memo ∧ Traced w p.memo.pending name p.memo p'.memo o := by
  have hreceive (reply : Reply (List String)) : Faithful w (p.receive name reply).memo :=
    hp.congr fun _ => rfl
  cases o with
  | ok d =>
    rcases h.cases_of_ok hframed hserves with ⟨hs, rfl⟩ | ⟨m, r, hw, rfl, hpend, -, hr, hd⟩
    · refine ⟨hp, .closed (hp.entry hs) fun n => ⟨.inl, ?_⟩⟩
      rintro (hn | hn)
      · exact hn
      · exact hp.reaches ⟨d, hs⟩ hn
    · obtain ⟨hfaith, htraced⟩ := hn hr hw hpend (hserves.append _) (hreceive _)
      cases htraced with
      | closed _ hs => exact ⟨hfaith, .closed (hfaith.entry hd) hs⟩
  | error stop =>
    cases h with
    | cycle hs hpend => exact ⟨hp, .failed (.cycle hpend) (by simp)⟩
    | refused hs hpend hf =>
      obtain ⟨hnone, rfl⟩ := fetch_table_eq_error_iff.mp hf
      rw [hserves.agrees hpend] at hnone
      exact ⟨hreceive _, .failed (.missing hpend hnone) fun n => by simp [Memo.Settled]⟩
    | stopped hs hpend hf hr =>
      have hw := hserves.agrees hpend ▸ fetch_table_eq_ok_iff.mp hf
      obtain rfl := hserves.own hw
      obtain ⟨hfaith, htraced⟩ := hn hr hw hpend (hserves.append _) (hreceive _)
      exact ⟨hfaith, htraced.of_request⟩

theorem DemandedAll.traced (hframed : Framed nested) (hn : Follows modules w nested) {o}
    (h : DemandedAll (Source.table modules) nested m names p o p')
    (hserves : Serves modules w p.memo.pending) (hp : Faithful w p.memo) :
    Faithful w p'.memo ∧ TracedAll w p.memo.pending names p.memo p'.memo o := by
  induction h with
  | nil => exact ⟨hp, .closed (by simp) (by simp)⟩
  | @stopped name names p stop p' hd =>
    obtain ⟨hfaith, htraced⟩ := hd.traced hframed hn hserves hp
    exact ⟨hfaith, htraced.all_of_error names⟩
  | cons hd hr ih =>
    obtain ⟨hfaith, htraced⟩ := hd.traced hframed hn hserves hp
    have hpend := (hd.frame hframed).pending
    obtain ⟨hfaith', hall⟩ := ih (by rwa [Progress.memo_report, hpend]) hfaith
    rw [Progress.memo_report, hpend] at hall
    exact ⟨hfaith', hall.cons htraced⟩

/-- Resolutions of any depth over a table follow its graph. -/
theorem follows (modules w : NameMap Description) (depth : Nat) :
    Follows modules w (resolveWithin (Source.table modules) depth) := by
  induction depth with
  | zero =>
    intro m p o p' h hw hpend hserves hp
    cases resolved h with
    | cycle hc => exact absurd hc hpend
    | tooDeep => exact ⟨hp, .tooDeep⟩
  | succ depth ih =>
    intro m p o p' h hw hpend hserves hp
    have hframed := framed (Source.table modules) depth
    have hbegin : Faithful w (p.begin m).memo := hp.congr fun _ => rfl
    cases resolved h with
    | cycle hc => exact absurd hc hpend
    | @stopped _ stop p₁ _ ha =>
      obtain ⟨hfaith, hall⟩ := ha.traced hframed ih hserves hbegin
      refine ⟨hfaith.congr fun _ => rfl, ?_⟩
      cases hall with
      | failed hm hb hf hs => exact .failed (.inside hpend hw hm hb hf) hs
      | tooDeep => exact .tooDeep
    | @done _ ds p₁ _ ha =>
      obtain ⟨hfaith, hall⟩ := ha.traced hframed ih hserves hbegin
      have hsettled (x : String) (hx : x ∈ m.needs) : p₁.memo.Settled x := ha.settled hframed hx
      have hclosed : IsClosure w m.name (p₁.memo.closureOf m) := by
        refine isClosure_closureOf hw fun x hx => ?_
        obtain ⟨e, he⟩ := hsettled x hx
        exact ⟨e, he, hfaith.entry he⟩
      have hfaith' := hfaith.settle (d := p₁.memo.closureOf m) hclosed fun x hx =>
        hsettled x ((needs_iff hw).mp hx)
      refine ⟨hfaith'.congr fun _ => rfl, .closed hclosed fun n => ?_⟩
      cases hall with
      | closed _ hs =>
        change (p₁.memo.settle (p₁.memo.closureOf m)).Settled n ↔ _
        rw [Memo.settled_settle, hs, reaches_iff hw, Memo.name_closureOf]
        change (p.memo.Settled n ∨ _) ∨ _ ↔ _
        rw [or_assoc, or_comm (b := n = m.name), eq_comm]

end ModuleClosure.Closure
