import Mathlib.Logic.Relation
import ModuleClosure.Closure

/-!
# Closures over a memo

A resolution takes the complete descriptions of what a module needs from its memo, so its result is
a function of the description and of the memo: `Memo.closureOf`. Membership in its two sets is what
later modules use of it.
-/
namespace ModuleClosure

namespace Description

/-- The names a description needs, in the order in which they are asked for. -/
def needs (m : Description) : List String := m.depends.toList ++ m.suggests.toList

theorem mem_needs {m : Description} {n : String} : n ∈ m.needs ↔ n ∈ m.depends ∨ n ∈ m.suggests := by
  simp [needs]

private theorem mem_foldl_union {n : String} (sets : List NameSet) (start : NameSet) :
    n ∈ sets.foldl (· ∪ ·) start ↔ n ∈ start ∨ ∃ s ∈ sets, n ∈ s := by
  induction sets generalizing start with
  | nil => simp
  | cons s sets ih =>
    rw [List.foldl_cons, ih, Std.ExtTreeSet.mem_union_iff]
    simp [or_assoc]

theorem mem_union_map {n : String} {ds : List Description} {names : Description → NameSet} :
    n ∈ union (ds.map names) ↔ ∃ d ∈ ds, n ∈ names d := by
  simp only [union, mem_foldl_union, List.mem_map, Std.ExtTreeSet.not_mem_empty, false_or]
  exact ⟨fun ⟨_, ⟨d, hd, rfl⟩, hn⟩ => ⟨d, hd, hn⟩, fun ⟨d, hd, hn⟩ => ⟨_, ⟨d, hd, rfl⟩, hn⟩⟩

private theorem mem_filter_not_contains {n : String} {s t : NameSet} :
    n ∈ s.filter (fun name => !t.contains name) ↔ n ∈ s ∧ n ∉ t := by
  simp [← Bool.not_eq_true]

variable {m : Description} {required suggested : List Description} {n : String}

theorem mem_depends_closedOver :
    n ∈ (m.closedOver required suggested).depends ↔
      n ∈ m.depends ∨ ∃ d ∈ required, n ∈ d.depends := by
  simp only [closedOver, Std.ExtTreeSet.mem_union_iff, mem_union_map]

theorem mem_suggests_closedOver :
    n ∈ (m.closedOver required suggested).suggests ↔
      (n ∈ m.suggests ∨ ∃ d ∈ suggested, n ∈ d.depends ∨ n ∈ d.suggests) ∧
        n ∉ (m.closedOver required suggested).depends := by
  simp only [closedOver, mem_filter_not_contains, Std.ExtTreeSet.mem_union_iff, mem_union_map]

end Description

namespace Memo

variable {memo : Memo} {d : Description} {n : String}

/-- The description of a name is complete in the memo. -/
def Settled (memo : Memo) (n : String) : Prop := ∃ d, memo.get? n = some d

theorem not_settled : ¬ memo.Settled n ↔ memo.get? n = none := by
  simp [Settled, Option.eq_none_iff_forall_ne_some]

@[simp] theorem get?_empty (n : String) : ({} : Memo).get? n = none := by
  simp [get?]

@[simp] theorem get?_request (name : String) : (memo.request name).get? n = memo.get? n := rfl

@[simp] theorem get?_enter (name : String) : (memo.enter name).get? n = memo.get? n := rfl

@[simp] theorem get?_leave (name : String) : (memo.leave name).get? n = memo.get? n := rfl

@[simp] theorem pending_enter (name : String) :
    (memo.enter name).pending = memo.pending ++ [name] := rfl

@[simp] theorem requested_enter (name : String) :
    (memo.enter name).requested = memo.requested := rfl

@[simp] theorem requested_leave (name : String) :
    (memo.leave name).requested = memo.requested := rfl

theorem contains_iff : memo.contains n = true ↔ memo.Settled n := by
  rw [Settled, contains, Std.ExtTreeMap.contains_eq_isSome_getElem?, Option.isSome_iff_exists]
  rfl

theorem settle_of_settled (h : memo.Settled d.name) : memo.settle d = memo := by
  rw [settle, if_pos (contains_iff.mpr h)]

/-- An entry that is there stays; a new one comes under its own name. -/
theorem get?_settle :
    (memo.settle d).get? n = (memo.get? n).or (if n = d.name then some d else none) := by
  by_cases h : memo.Settled d.name
  · rw [settle_of_settled h]
    split
    · subst n
      obtain ⟨e, he⟩ := h
      simp [he]
    · simp
  · rw [settle, if_neg (mt contains_iff.mp h)]
    by_cases hn : n = d.name
    · subst n
      rw [not_settled.mp h]
      simp [get?]
    · simp [get?, Std.ExtTreeMap.getElem?_insert, hn, Ne.symm hn]

theorem get?_settle_cases {e : Description} (h : (memo.settle d).get? n = some e) :
    memo.get? n = some e ∨ n = d.name ∧ e = d := by
  rw [get?_settle, Option.or_eq_some_iff] at h
  rcases h with h | ⟨-, h⟩
  · exact .inl h
  · split at h
    · cases h
      exact .inr ⟨‹_›, rfl⟩
    · cases h

theorem settled_settle : (memo.settle d).Settled n ↔ memo.Settled n ∨ n = d.name := by
  by_cases hn : n = d.name <;> cases hm : memo.get? n <;> simp [Settled, get?_settle, hn, hm]

@[simp] theorem pending_settle : (memo.settle d).pending = memo.pending := by
  rw [settle]
  split <;> rfl

@[simp] theorem requested_settle : (memo.settle d).requested = memo.requested := by
  rw [settle]
  split <;> rfl

/-- Leaving takes away what entering added. -/
theorem pending_leave {names : List String} {name : String} (h : memo.pending = names ++ [name]) :
    (memo.leave name).pending = names := by
  simp [leave, h]

theorem leave_enter (memo : Memo) (name : String) : (memo.enter name).leave name = memo := by
  simp [leave, enter]

private theorem dropWhile_ne_eq {names : List String} (h : n ∈ names) :
    ∃ rest, names.dropWhile (· ≠ n) = n :: rest := by
  induction names with
  | nil => cases h
  | cons x names ih =>
    by_cases hx : x = n
    · exact ⟨names, by simp [hx]⟩
    · obtain ⟨rest, hrest⟩ := ih ((List.mem_cons.mp h).resolve_left (Ne.symm hx))
      exact ⟨rest, by rw [List.dropWhile_cons_of_pos (by simpa using hx), hrest]⟩

/-- A cycle to a pending name has the pending names from there on, and the name once more. -/
theorem cycleTo_eq (h : n ∈ memo.pending) :
    ∃ path, memo.cycleTo n = n :: path ++ [n] ∧ n :: path <:+ memo.pending := by
  obtain ⟨path, hpath⟩ := dropWhile_ne_eq h
  exact ⟨path, by rw [cycleTo, hpath], hpath ▸ List.dropWhile_suffix _⟩

/-- The closure of a description, with what the memo holds for the names it needs. -/
def closureOf (memo : Memo) (m : Description) : Description :=
  m.closedOver (m.depends.toList.filterMap memo.get?) (m.suggests.toList.filterMap memo.get?)

variable {m : Description}

@[simp] theorem name_closureOf : (memo.closureOf m).name = m.name := rfl

theorem mem_depends_closureOf :
    n ∈ (memo.closureOf m).depends ↔
      n ∈ m.depends ∨ ∃ x ∈ m.depends, ∃ d, memo.get? x = some d ∧ n ∈ d.depends := by
  rw [closureOf, Description.mem_depends_closedOver]
  simp only [List.mem_filterMap, Std.ExtTreeSet.mem_toList]
  grind

theorem mem_suggests_closureOf :
    n ∈ (memo.closureOf m).suggests ↔
      (n ∈ m.suggests ∨ ∃ x ∈ m.suggests, ∃ d, memo.get? x = some d ∧
        (n ∈ d.depends ∨ n ∈ d.suggests)) ∧ n ∉ (memo.closureOf m).depends := by
  rw [closureOf, Description.mem_suggests_closedOver]
  simp only [List.mem_filterMap, Std.ExtTreeSet.mem_toList]
  grind

/-- A closure changes the two sets of names and nothing else. -/
theorem closureOf_eq : memo.closureOf m =
    { m with depends := (memo.closureOf m).depends, suggests := (memo.closureOf m).suggests } := rfl

end Memo
end ModuleClosure
