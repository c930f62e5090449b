import Mathlib.Data.List.DropRight
import ModuleClosure.Proofs.Parameters.Entries

/-!
# Subtrees

The subtree under a path has the entries whose keys begin with the path and a dot, and their keys
without these. What keys begin with is the same for all of them, so no two keys become one, and
their order stays.
-/
namespace ModuleClosure.Parameters
open Text

variable {p : Parameters} {path key value : String}

theorem ofList_underPath (h : path.toList.getLast? ≠ some '.') :
    String.ofList (underPath path) = path ++ "." := by
  have hdots : path.toList.rdropWhile (· == '.') = path.toList :=
    List.rdropWhile_eq_self_iff.mpr fun hne hlast => by
      rw [List.getLast?_eq_some_getLast hne] at h
      exact h (congrArg some (beq_iff_eq.mp hlast))
  rw [underPath, ← List.rdropWhile, hdots, String.ofList_append, String.ofList_toList]

/-- What two texts begin with does not matter to their order. -/
theorem append_lt_append_left_iff (u : List Char) {s t : List Char} : u ++ s < u ++ t ↔ s < t := by
  induction u with
  | nil => rfl
  | cons c u ih => rw [List.cons_append, List.cons_append, List.cons_lt_cons_self, ih]

/-- The entry of a subtree that an entry becomes, if it is under the path. -/
def entryUnder? (path : String) (entry : String × String) : Option (String × String) :=
  (after? (underPath path) entry.1.toList).map fun key => (String.ofList key, entry.2)

theorem entryUnder?_eq_some_iff {entry : String × String} :
    entryUnder? path entry = some (key, value) ↔
      entry = (String.ofList (underPath path) ++ key, value) := by
  obtain ⟨k, v⟩ := entry
  have hkey : k = String.ofList (underPath path) ++ key ↔
      k.toList = underPath path ++ key.toList := by
    rw [← String.toList_inj, String.toList_append, String.toList_ofList]
  rw [entryUnder?, Option.map_eq_some_iff, Prod.mk.injEq, hkey]
  constructor
  · rintro ⟨rest, hrest, h⟩
    obtain ⟨rfl, rfl⟩ := Prod.mk.inj h
    exact ⟨by rw [after?_eq_some_iff.mp hrest, String.toList_ofList], rfl⟩
  · rintro ⟨hk, rfl⟩
    exact ⟨key.toList, after?_eq_some_iff.mpr hk, by rw [String.ofList_toList]⟩

theorem toList_sub (p : Parameters) (path : String) :
    (p.sub path).toList = p.toList.filterMap (entryUnder? path) := by
  refine toList_ofList (List.pairwise_filterMap.mpr (p.toList_ascending.imp ?_))
  rintro a b hab ⟨k, v⟩ ha ⟨l, w⟩ hb
  -- Both full keys begin alike, so they are in the order of what is left of them.
  rw [entryUnder?_eq_some_iff.mp ha, entryUnder?_eq_some_iff.mp hb] at hab
  rw [String.lt_iff_toList_lt, String.toList_append, String.toList_append,
    append_lt_append_left_iff] at hab
  exact String.lt_iff_toList_lt.mpr hab

theorem get?_sub (p : Parameters) (path key : String) :
    (p.sub path).get? key = p.get? (String.ofList (underPath path) ++ key) := by
  refine Option.ext fun value => ?_
  rw [← mem_toList_iff, ← mem_toList_iff, toList_sub, List.mem_filterMap]
  simp only [entryUnder?_eq_some_iff, exists_eq_right]

/-- An entry is in the subtree exactly if its key begins with the path and a dot. -/
theorem map_entryUnder? (path : String) (entry : String × String) :
    (entryUnder? path entry).map (fun e => (String.ofList (underPath path) ++ e.1, e.2)) =
      Option.guard (fun e => (underPath path).isPrefixOf e.1.toList) entry := by
  cases h : entryUnder? path entry with
  | none =>
    have hnot : ¬ underPath path <+: entry.1.toList := by
      rintro ⟨rest, hrest⟩
      have hsome : entryUnder? path entry = some (String.ofList rest, entry.2) := by
        rw [entryUnder?, after?_eq_some_iff.mpr hrest.symm, Option.map_some]
      cases h.symm.trans hsome
    simpa [Option.guard] using hnot
  | some e =>
    obtain ⟨key, value⟩ := e
    simp [entryUnder?_eq_some_iff.mp h, Option.guard]

/-- The entries of a subtree, with their full keys, are the entries under its path in order. -/
theorem map_toList_sub (p : Parameters) (path : String) :
    (p.sub path).toList.map (fun e => (String.ofList (underPath path) ++ e.1, e.2)) =
      p.toList.filter fun e => (underPath path).isPrefixOf e.1.toList := by
  rw [toList_sub, List.map_filterMap, ← List.filterMap_eq_filter]
  exact congrArg (p.toList.filterMap ·) (funext (map_entryUnder? path))

/-- A subtree has all entries if all keys are under its path. -/
theorem size_sub (h : ∀ e ∈ p.toList, underPath path <+: e.1.toList) :
    (p.sub path).size = p.size := by
  have hall : (p.toList.filter fun e => (underPath path).isPrefixOf e.1.toList) = p.toList :=
    List.filter_eq_self.mpr fun e he => List.isPrefixOf_iff_prefix.mpr (h e he)
  rw [← length_toList, ← length_toList, ← hall, ← map_toList_sub, List.length_map]

theorem sub_sub {a b : String} (ha : a.toList.getLast? ≠ some '.') (hne : b ≠ "")
    (hb : b.toList.getLast? ≠ some '.') : (p.sub a).sub b = p.sub (a ++ "." ++ b) := by
  have hab : (a ++ "." ++ b).toList.getLast? ≠ some '.' := by
    rw [String.toList_append, List.getLast?_append_of_ne_nil _ (by simpa using hne)]
    exact hb
  refine ext_get? fun key => ?_
  rw [get?_sub, get?_sub, get?_sub, ofList_underPath ha, ofList_underPath hb, ofList_underPath hab]
  simp only [String.append_assoc]

/-- A subtree has the values that the parameters have behind its path and a dot. Its entries are
those under the path, once each and in order. The subtree of a subtree is the subtree under both
paths. -/
theorem sub_meaning (p : Parameters) {a : String} (ha : a.toList.getLast? ≠ some '.') :
    (∀ key, (p.sub a).get? key = p.get? (a ++ "." ++ key)) ∧
    (p.sub a).toList.map (fun e => (a ++ "." ++ e.1, e.2)) =
      p.toList.filter (fun e => (a ++ ".").toList.isPrefixOf e.1.toList) ∧
    ∀ b : String, b ≠ "" → b.toList.getLast? ≠ some '.' →
      (p.sub a).sub b = p.sub (a ++ "." ++ b) := by
  have hunder := ofList_underPath ha
  refine ⟨fun key => ?_, ?_, fun b hne hb => sub_sub ha hne hb⟩
  · rw [get?_sub, hunder]
  · have hlist : (a ++ ".").toList = underPath a := by rw [← hunder, String.toList_ofList]
    rw [hlist, ← hunder]
    exact map_toList_sub p a

/-- Keys with doubled, leading and trailing dots, and one that goes on without a dot. -/
def dotted : Parameters :=
  ofList [("a.b", "1"), ("a..b", "2"), ("ab", "3"), ("a.b.c", "4"), ("a.", "5"), (".a.b", "6")]

theorem sub_meaning_dotted :
    "a".toList.getLast? ≠ some '.' ∧ "b" ≠ "" ∧ "b".toList.getLast? ≠ some '.' ∧
    (dotted.sub "a").get? ".b" = some "2" ∧
    (dotted.sub "a").toList.map (fun e => ("a" ++ "." ++ e.1, e.2)) =
      [("a.", "5"), ("a..b", "2"), ("a.b", "1"), ("a.b.c", "4")] ∧
    (dotted.sub "a").sub "b" = dotted.sub "a.b" := by
  have ha : "a".toList.getLast? ≠ some '.' := by decide
  have hne : "b" ≠ "" := by decide
  have hb : "b".toList.getLast? ≠ some '.' := by decide
  obtain ⟨hget, hentries, hsub⟩ := sub_meaning dotted ha
  exact ⟨ha, hne, hb, (hget ".b").trans (by decide +kernel), hentries.trans (by decide +kernel),
    hsub "b" hne hb⟩

end ModuleClosure.Parameters
