import ModuleClosure.Proofs.Closure.Origin
import ModuleClosure.Proofs.Closure.Outcome

/-!
# The order of requests

A resolution over a table that succeeds asks for names in the order of a plain depth-first walk of
the graph of needs. The names that such a walk has seen are those that are settled or pending, so
what the memo holds and what is being resolved take the place of its marks.
-/
namespace ModuleClosure

namespace Graph

/-- The names that a module needs: what it depends on in ascending order, then what it suggests. -/
def needsIn (w : NameMap Description) (n : String) : List String :=
  match w[n]? with
  | some d => d.needs
  | none => []

/-- The names of a table that were not seen. -/
def unseen (w : NameMap Description) (seen : List String) : List String :=
  w.keys.filter fun k => k ∉ seen

theorem unseen_append (w : NameMap Description) (seen : List String) (n : String) :
    unseen w (seen ++ [n]) = (unseen w seen).filter fun k => k ≠ n := by
  rw [unseen, unseen, List.filter_filter]
  refine List.filter_congr fun k _ => ?_
  simp [and_comm]

theorem needsIn_of_not_mem {w : NameMap Description} {n : String} (h : n ∉ w.keys) :
    needsIn w n = [] := by
  rw [Std.ExtTreeMap.mem_keys] at h
  simp [needsIn, Std.ExtTreeMap.getElem?_eq_none h]

/-- The names of a depth-first walk, in the order in which it comes to them first: a name that was
seen before is skipped, another one is followed by what it needs. -/
def preorder (w : NameMap Description) (seen : List String) : List String → List String
  | [] => []
  | n :: rest =>
    if n ∈ seen then preorder w seen rest
    else n :: preorder w (seen ++ [n]) (needsIn w n ++ rest)
termination_by names => ((unseen w seen).length, names.length)
decreasing_by
  · exact Prod.Lex.right _ (Nat.lt_succ_self _)
  · rename_i hn
    rw [unseen_append]
    by_cases hk : n ∈ w.keys
    · have hmem : n ∈ unseen w seen := List.mem_filter.mpr ⟨hk, by simpa using hn⟩
      refine Prod.Lex.left _ _ (List.length_filter_lt_length_iff_exists.mpr ⟨n, hmem, by simp⟩)
    · rw [needsIn_of_not_mem hk]
      exact Prod.Lex.right' _ (List.length_filter_le _ _) (Nat.lt_succ_self _)

variable {w : NameMap Description} {seen names : List String} {n : String}

theorem pairwise_toList (names : NameSet) : names.toList.Pairwise (· < ·) :=
  names.ordered_toList.imp fun h => compareOfLessAndEq_eq_lt.mp h

theorem needsIn_ascending (w : NameMap Description) (n : String) :
    ∃ required suggested, needsIn w n = required ++ suggested ∧
      required.Pairwise (· < ·) ∧ suggested.Pairwise (· < ·) ∧
      (∀ x, x ∈ required ↔ Depends w n x) ∧ ∀ x, x ∈ suggested ↔ Suggests w n x := by
  cases hw : w[n]? with
  | none => exact ⟨[], [], by simp [needsIn, hw], .nil, .nil, by simp [Depends, hw],
      by simp [Suggests, hw]⟩
  | some d =>
    refine ⟨d.depends.toList, d.suggests.toList, by simp [needsIn, hw, Description.needs],
      pairwise_toList _, pairwise_toList _, fun x => ?_, fun x => ?_⟩
    · rw [Std.ExtTreeSet.mem_toList, depends_iff hw]
    · rw [Std.ExtTreeSet.mem_toList, suggests_iff hw]

theorem preorder_cons_of_mem (h : n ∈ seen) :
    preorder w seen (n :: names) = preorder w seen names := by
  rw [preorder, if_pos h]

theorem preorder_cons_of_not_mem (h : n ∉ seen) :
    preorder w seen (n :: names) =
      n :: preorder w (seen ++ [n]) (needsIn w n ++ names) := by
  rw [preorder, if_neg h]

theorem nodup_append_preorder (w : NameMap Description) (names : List String) (h : seen.Nodup) :
    (seen ++ preorder w seen names).Nodup := by
  induction seen, names using preorder.induct w with
  | case1 seen => simpa [preorder] using h
  | case2 seen n rest hn ih =>
    rw [preorder_cons_of_mem hn]
    exact ih h
  | case3 seen n rest hn ih =>
    rw [preorder_cons_of_not_mem hn, List.append_cons]
    exact ih (nodup_append_singleton h hn)

end Graph

namespace Closure
open Relation ModuleClosure.Graph

variable {modules w : NameMap Description} {root m : Description} {name : String}
  {names names' : List String} {depth : Nat} {p p₁ p' : Progress (List String)}
  {nested : Description → Step (List String) Description}

/-- The names that a walk from a root has seen. -/
def seenFrom (root : Description) (p : Progress (List String)) : List String :=
  root.name :: p.memo.requested

/-- What a walk has seen is settled or one of the given names, which are being resolved. -/
def Marked (root : Description) (pending : List String) (p : Progress (List String)) : Prop :=
  ∀ n, n ∈ seenFrom root p ↔ p.memo.Settled n ∨ n ∈ pending

/-- A part of a resolution that succeeds asks for the names to which the walk comes from the given
ones, before it goes on with the rest. -/
structure Walks (w : NameMap Description) (root : Description) (names : List String)
    (p p' : Progress (List String)) : Prop where
  marked : Marked root p'.memo.pending p'
  walk : ∃ met, p'.memo.requested = p.memo.requested ++ met ∧ ∀ rest,
    preorder w (seenFrom root p) (names ++ rest) = met ++ preorder w (seenFrom root p') rest

theorem Walks.nil (h : Marked root p.memo.pending p) : Walks w root [] p p :=
  ⟨h, [], by simp, fun _ => rfl⟩

theorem Walks.append (h : Walks w root names p p₁) (h' : Walks w root names' p₁ p') :
    Walks w root (names ++ names') p p' := by
  obtain ⟨met, hreq, hwalk⟩ := h.walk
  obtain ⟨met', hreq', hwalk'⟩ := h'.walk
  refine ⟨h'.marked, met ++ met', by rw [hreq', hreq, List.append_assoc], fun rest => ?_⟩
  rw [List.append_assoc, hwalk, hwalk', List.append_assoc]

/-- A way to resolve over a table that walks through what a description needs. -/
def WalksNeeds (modules w : NameMap Description) (root : Description)
    (nested : Description → Step (List String) Description) : Prop :=
  ∀ ⦃m p r p'⦄, nested m p = (.ok r, p') → w[m.name]? = some m →
    Serves modules w (p.memo.pending ++ [m.name]) →
    Marked root (p.memo.pending ++ [m.name]) p → Walks w root m.needs p p'

theorem Demanded.walks (hframed : Framed nested) (hn : WalksNeeds modules w root nested) {d}
    (h : Demanded (Source.table modules) nested name p (.ok d) p')
    (hserves : Serves modules w p.memo.pending) (hp : Marked root p.memo.pending p) :
    Walks w root [name] p p' := by
  rcases h.cases_of_ok hframed hserves with ⟨hs, rfl⟩ | ⟨m, r, hw, rfl, hpend, hs, hr, -⟩
  · have hseen : name ∈ seenFrom root p' := (hp name).mpr (.inl ⟨d, hs⟩)
    exact ⟨hp, [], by simp, fun rest => preorder_cons_of_mem hseen⟩
  · have hnew : m.name ∉ seenFrom root p := fun hseen =>
      ((hp m.name).mp hseen).elim (Memo.not_settled.mpr hs) hpend
    have hreceive : Marked root (p.memo.pending ++ [m.name])
        (p.receive m.name ((Source.table modules).fetch m.name p.state)) := by
      intro n
      have hold := hp n
      simp only [seenFrom, List.mem_cons] at hold
      simp only [seenFrom, Progress.memo_receive, Memo.request, List.mem_cons, List.mem_append,
        ← or_assoc, hold]
      rfl
    obtain ⟨hmarked, met, hreq, hwalk⟩ := hn hr hw (hserves.append _) hreceive
    refine ⟨hmarked, m.name :: met, by simp [hreq, Memo.request], fun rest => ?_⟩
    have hneeds : needsIn w m.name = m.needs := by simp [needsIn, hw]
    rw [List.singleton_append, preorder_cons_of_not_mem hnew, hneeds, List.cons_append, ← hwalk rest]
    rfl

theorem DemandedAll.walks (hframed : Framed nested) (hn : WalksNeeds modules w root nested) {ds}
    (h : DemandedAll (Source.table modules) nested m names p (.ok ds) p')
    (hserves : Serves modules w p.memo.pending) (hp : Marked root p.memo.pending p) :
    Walks w root names p p' := by
  induction h using DemandedAll.induction_ok with
  | nil => exact .nil hp
  | @cons _ _ p _ p₁ _ _ hd hr ih =>
    have hfirst := hd.walks hframed hn hserves hp
    have hpend : p₁.memo.pending = p.memo.pending := (hd.frame hframed).pending
    have hrest := ih (by rwa [Progress.memo_report, hpend]) hfirst.marked
    exact hfirst.append ⟨hrest.marked, hrest.walk⟩

theorem walksNeeds (modules w : NameMap Description) (root : Description) (depth : Nat) :
    WalksNeeds modules w root (resolveWithin (Source.table modules) depth) := by
  induction depth with
  | zero =>
    intro m p r p' h
    cases resolved h
  | succ depth ih =>
    intro m p r p' h hw hserves hp
    cases resolved h with
    | @done _ ds p₁ hpend ha =>
      have hframed := framed (Source.table modules) depth
      obtain ⟨hmarked, met, hreq, hwalk⟩ := ha.walks hframed ih hserves hp
      have hpend₁ : p₁.memo.pending = p.memo.pending ++ [m.name] := (ha.frame hframed).pending
      have hseen : seenFrom root (p₁.finish (p₁.memo.closureOf m)) = seenFrom root p₁ := by
        simp [seenFrom]
      -- The name leaves the pending ones and is settled.
      have hfinish : Marked root p.memo.pending (p₁.finish (p₁.memo.closureOf m)) := by
        intro n
        rw [hseen, hmarked n, hpend₁]
        change _ ↔ (p₁.memo.settle (p₁.memo.closureOf m)).Settled n ∨ _
        rw [Memo.settled_settle, List.mem_append, List.mem_singleton, or_assoc, Memo.name_closureOf,
          or_comm (a := n ∈ p.memo.pending)]
      have hpend' : (p₁.finish (p₁.memo.closureOf m)).memo.pending = p.memo.pending :=
        Memo.pending_leave (by simpa using hpend₁)
      exact ⟨hpend' ▸ hfinish, met, by simpa using hreq, fun rest => hseen ▸ hwalk rest⟩

theorem after_table (modules : NameMap Description) (names asked : List String) :
    (Source.table modules).after names asked = asked ++ names := by
  induction names generalizing asked with
  | nil => exact (List.append_nil asked).symm
  | cons name names ih =>
    rw [Source.after, ih]
    exact (List.append_cons asked name names).symm

/-- The requests of a resolution over a table, from an empty memo, are what the table is asked for.
If it succeeds they are those of a depth-first walk from the needs of the root, which goes through
dependencies in ascending order and then suggestions in ascending order. They are the names that the
root leads to, once each, and with the root's they are what is settled. If a name is missing it is
the last request. -/
theorem resolve_preorder (ds : List Description) (asked : List String) (m : Description) {o}
    (h : resolve (Source.table (Source.tableOf ds)) m { state := asked } = (o, p')) :
    p'.state = asked ++ p'.memo.requested ∧
    (∀ r, o = .ok r →
      p'.memo.requested = preorder (rooted (Source.tableOf ds) m) [m.name] m.needs ∧
      p'.memo.requested.Nodup ∧
      (∀ x, x ∈ p'.memo.requested ↔
        ReflTransGen (Needs (rooted (Source.tableOf ds) m)) m.name x ∧ x ≠ m.name) ∧
      ∀ x, p'.memo.Settled x ↔ x = m.name ∨ x ∈ p'.memo.requested) ∧
    (∀ n, ∃ required suggested,
      needsIn (rooted (Source.tableOf ds) m) n = required ++ suggested ∧
      required.Pairwise (· < ·) ∧ suggested.Pairwise (· < ·) ∧
      (∀ x, x ∈ required ↔ Depends (rooted (Source.tableOf ds) m) n x) ∧
      ∀ x, x ∈ suggested ↔ Suggests (rooted (Source.tableOf ds) m) n x) ∧
    ∀ n, o = .error (.failed (.noAddress n)) → ∃ earlier, p'.memo.requested = earlier ++ [n] := by
  have horigin := originates (Source.table (Source.tableOf ds)) _ h List.nodup_nil
  refine ⟨?_, ?_, needsIn_ascending _, ?_⟩
  · obtain ⟨names, hreq, hstate⟩ := horigin.requests
    rw [hstate, hreq, after_table, List.nil_append]
  · rintro r rfl
    have hmod := named_tableOf ds
    have hroot : Marked m [m.name] { state := asked } := fun n => by simp [seenFrom, Memo.Settled]
    obtain ⟨hmarked, met, hreq, hwalk⟩ :=
      walksNeeds _ _ m _ h getElem?_rooted_self (serves_rooted hmod) hroot
    have hpend : p'.memo.pending = [] := (framed _ _ h).1.pending
    have hmet : p'.memo.requested = preorder (rooted (Source.tableOf ds) m) [m.name] m.needs := by
      have hall := hwalk []
      rw [List.append_nil, preorder, List.append_nil] at hall
      exact hreq.trans (hall ▸ rfl)
    have hnodup : (m.name :: p'.memo.requested).Nodup := by
      rw [hmet]
      exact nodup_append_preorder _ _ (List.nodup_singleton m.name)
    have hsettled (x : String) : p'.memo.Settled x ↔ x = m.name ∨ x ∈ p'.memo.requested := by
      have hseen : x ∈ m.name :: p'.memo.requested ↔ p'.memo.Settled x ∨ x ∈ [] := hpend ▸ hmarked x
      rw [← List.mem_cons, hseen, or_iff_left List.not_mem_nil]
    refine ⟨hmet, (List.nodup_cons.mp hnodup).2, fun x => ?_, hsettled⟩
    rw [← resolve_settled_iff ds asked m h, hsettled]
    have hnew := (List.nodup_cons.mp hnodup).1
    constructor
    · exact fun hx => ⟨.inr hx, fun he => hnew (he ▸ hx)⟩
    · rintro ⟨hx, hne⟩
      exact hx.resolve_left hne
  · rintro n rfl
    cases horigin with
    | @refused names _ last _ q hall hf hreq =>
      obtain ⟨-, hname⟩ := fetch_table_eq_error_iff.mp hf
      cases hname
      exact ⟨_, hreq⟩

/-- Modules that are needed in more than one place. -/
def woven : List Description :=
  [{ name := "a", depends := .ofNames ["d"], suggests := .ofNames ["c"] },
    { name := "b", depends := .ofNames ["c"] }, { name := "c" },
    { name := "d", suggests := .ofNames ["c"] }]

def wovenRoot : Description :=
  { name := "m", depends := .ofNames ["b", "a"], suggests := .ofNames ["d"] }

theorem resolve_preorder_woven : ∃ r p',
    resolve (Source.table (Source.tableOf woven)) wovenRoot { state := ["z"] } = (.ok r, p') ∧
    p'.memo.requested = ["a", "d", "c", "b"] ∧ p'.state = ["z", "a", "d", "c", "b"] ∧
    preorder (rooted (Source.tableOf woven) wovenRoot) ["m"] ["a", "b", "d"] =
      ["a", "d", "c", "b"] := by
  have hok : (resolve (Source.table (Source.tableOf woven)) wovenRoot
      { state := ["z"] }).1.isOk = true := by decide +kernel
  have hreq : (resolve (Source.table (Source.tableOf woven)) wovenRoot
      { state := ["z"] }).2.memo.requested = ["a", "d", "c", "b"] := by decide +kernel
  rcases h : resolve (Source.table (Source.tableOf woven)) wovenRoot { state := ["z"] } with ⟨o, p'⟩
  rw [h] at hok hreq
  cases o with
  | error stop => cases hok
  | ok r =>
    obtain ⟨hstate, hwalk, -⟩ := resolve_preorder woven ["z"] wovenRoot h
    refine ⟨r, p', rfl, hreq, by rw [hstate, hreq]; rfl, ?_⟩
    rw [← hreq, (hwalk r rfl).1]
    rfl

end Closure
end ModuleClosure
