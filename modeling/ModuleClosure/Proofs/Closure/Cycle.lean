import Mathlib.Data.List.Chain
import ModuleClosure.Proofs.Closure.Outcome
import ModuleClosure.Proofs.Closure.Reachable

/-!
# Reported cycles

The names that are being resolved over a table are a chain in which each module needs the next one
by its own, unresolved description. A cycle is cut out of this chain where its name stands, so it is
a cycle of the graph of needs. What the memo holds has no part in this.
-/
namespace ModuleClosure.Closure
open Relation ModuleClosure.Graph

variable {modules w : NameMap Description} {pending names path : List String} {name : String}

/-- A walk of needs back to its start that passes no other name twice. -/
structure IsCycle (w : NameMap Description) (path : List String) : Prop where
  closed : ∃ n rest, path = n :: rest ++ [n] ∧ (n :: rest).Nodup
  needs : path.IsChain (Needs w)

/-- Each pending name needs the next one, and the last of them the name that is asked for. -/
structure Stacked (w : NameMap Description) (pending : List String) (name : String) : Prop where
  nodup : pending.Nodup
  needs : (pending ++ [name]).IsChain (Needs w)

theorem Stacked.step (h : Stacked w pending name) (hp : name ∉ pending) {x : String}
    (hx : Needs w name x) : Stacked w (pending ++ [name]) x where
  nodup := nodup_append_singleton h.nodup hp
  needs := h.needs.append_overlap (List.isChain_pair.mpr hx) (List.cons_ne_nil name [])

/-- A pending name that is asked for closes a cycle. -/
theorem Stacked.isCycle {memo : Memo} (h : Stacked w memo.pending name)
    (hp : name ∈ memo.pending) : IsCycle w (memo.cycleTo name) := by
  obtain ⟨rest, hrest, hsuffix⟩ := Memo.cycleTo_eq hp
  refine ⟨⟨name, rest, hrest, h.nodup.sublist hsuffix.sublist⟩, ?_⟩
  obtain ⟨outer, houter⟩ := hsuffix
  exact h.needs.suffix ⟨outer, by rw [hrest, ← List.append_assoc, houter]⟩

/-- If the outcome is a cycle, it is one of the graph. -/
def Cycles {α : Type} (w : NameMap Description) (o : Except Stop α) : Prop :=
  ∀ path, o = .error (.failed (.cycle path)) → IsCycle w path

theorem Cycles.of_error {α β : Type} {stop : Stop} (h : Cycles w (.error stop : Except Stop α)) :
    Cycles w (.error stop : Except Stop β) :=
  fun path ho => h path (by cases ho; rfl)

variable {nested : Description → Step (List String) Description} {m : Description}
  {p p' : Progress (List String)}

/-- A way to resolve that reports cycles of the graph only. -/
def FindsCycles (modules w : NameMap Description)
    (nested : Description → Step (List String) Description) : Prop :=
  ∀ ⦃m p o p'⦄, nested m p = (o, p') → w[m.name]? = some m →
    Serves modules w (p.memo.pending ++ [m.name]) → Stacked w p.memo.pending m.name → Cycles w o

theorem Demanded.cycles (hn : FindsCycles modules w nested) {o}
    (h : Demanded (Source.table modules) nested name p o p')
    (hserves : Serves modules w p.memo.pending) (hstack : Stacked w p.memo.pending name) :
    Cycles w o := by
  cases h with
  | settled => exact nofun
  | cycle hs hp =>
    rintro path ⟨⟩
    exact hstack.isCycle hp
  | refused hs hp hf =>
    obtain ⟨-, rfl⟩ := fetch_table_eq_error_iff.mp hf
    exact nofun
  | stopped hs hp hf hr =>
    have hw := hserves.agrees hp ▸ fetch_table_eq_ok_iff.mp hf
    obtain rfl := hserves.own hw
    exact (hn hr hw (hserves.append _) hstack).of_error
  | answered => exact nofun

theorem DemandedAll.cycles (hframed : Framed nested) (hn : FindsCycles modules w nested) {o}
    (h : DemandedAll (Source.table modules) nested m names p o p')
    (hserves : Serves modules w p.memo.pending)
    (hstack : ∀ n ∈ names, Stacked w p.memo.pending n) : Cycles w o := by
  induction h with
  | nil => exact nofun
  | stopped hd => exact (hd.cycles hn hserves (hstack _ List.mem_cons_self)).of_error
  | @cons _ _ _ _ _ o _ hd hr ih =>
    have hpend := (hd.frame hframed).pending
    have hrest := ih (by rwa [Progress.memo_report, hpend]) fun n hn => by
      rw [Progress.memo_report, hpend]
      exact hstack n (List.mem_cons_of_mem _ hn)
    cases o with
    | error stop => exact hrest.of_error
    | ok ds => exact nofun

/-- Resolutions of any depth over a table report cycles of its graph only. -/
theorem findsCycles (modules w : NameMap Description) (depth : Nat) :
    FindsCycles modules w (resolveWithin (Source.table modules) depth) := by
  induction depth with
  | zero =>
    intro m p o p' h hw hserves hstack
    cases resolved h with
    | cycle hp =>
      rintro path ⟨⟩
      exact hstack.isCycle hp
    | tooDeep => exact nofun
  | succ depth ih =>
    intro m p o p' h hw hserves hstack
    cases resolved h with
    | cycle hp =>
      rintro path ⟨⟩
      exact hstack.isCycle hp
    | stopped hp ha =>
      refine (ha.cycles (framed _ depth) ih hserves fun n hn => ?_).of_error
      exact hstack.step hp ((needs_iff hw).mpr hn)
    | done => exact nofun

/-- A cycle that a resolution over a table reports, with any memo that resolutions lead to, is a
walk of needs from a name back to it that passes no other name twice. The needs are those of the
unresolved descriptions: the root's own, and the table's for every other name. -/
theorem resolve_cycle (ds : List Description) (m : Description) (hp : Reachable p.memo)
    (h : resolve (Source.table (Source.tableOf ds)) m p = (.error (.failed (.cycle path)), p')) :
    (∃ n rest, path = n :: rest ++ [n] ∧ (n :: rest).Nodup) ∧
    path.IsChain (Needs (rooted (Source.tableOf ds) m)) ∧
    (Failure.cycle path).message = "检测到循环依赖: " ++ " -> ".intercalate path := by
  have hpend := hp.pending
  have hserves : Serves (Source.tableOf ds) (rooted (Source.tableOf ds) m)
      (p.memo.pending ++ [m.name]) := by
    rw [hpend]
    exact serves_rooted (named_tableOf ds)
  have hstack : Stacked (rooted (Source.tableOf ds) m) p.memo.pending m.name := by
    rw [hpend]
    exact ⟨List.nodup_nil, .singleton _⟩
  have hcycle := findsCycles _ _ _ h getElem?_rooted_self hserves hstack path rfl
  exact ⟨hcycle.closed, hcycle.needs, rfl⟩

/-- Descriptions with a cycle that is entered from a module outside it. -/
def looped : List Description :=
  [{ name := "a", depends := .ofNames ["c", "b"] }, { name := "b", suggests := .ofNames ["d"] },
    { name := "c" }, { name := "d", depends := .ofNames ["c", "b"] }]

/-- The progress after a root with the name of `c`, which the table holds too. -/
def loopedProgress : Progress (List String) :=
  (resolve (Source.table (Source.tableOf looped)) { name := "c", version := some "0.1" }
    { state := [] }).2

def loopedRoot : Description := { name := "m", suggests := .ofNames ["a", "c"] }

theorem resolve_cycle_looped :
    Reachable loopedProgress.memo ∧
    (resolve (Source.table (Source.tableOf looped)) loopedRoot loopedProgress).1 =
      .error (.failed (.cycle ["b", "d", "b"])) ∧
    Needs (rooted (Source.tableOf looped) loopedRoot) "d" "b" := by
  have hreach : Reachable loopedProgress.memo := .resolve _ _ .empty
  have ho : (resolve (Source.table (Source.tableOf looped)) loopedRoot loopedProgress).1 =
      .error (.failed (.cycle ["b", "d", "b"])) := by decide +kernel
  obtain ⟨-, hchain, -⟩ := resolve_cycle looped loopedRoot hreach (Prod.ext ho rfl)
  exact ⟨hreach, ho, hchain.tail.rel⟩

end ModuleClosure.Closure
