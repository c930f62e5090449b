import Mathlib.Data.List.Induction
import Mathlib.Data.List.Nodup
import Mathlib.Data.String.Basic
import ModuleClosure.Parameters

/-!
# The entries of parameters

Parameters are known by their values, and have their entries once each, in ascending order of the
keys. Parameters made from assignments hold for each key what was assigned to it last. Of two lists
of assignments, one behind the other, the second overrides the first.
-/
namespace ModuleClosure.Parameters

/-- The value that was assigned to a key last. -/
def lastValue (entries : List (String × String)) (key : String) : Option String :=
  entries.reverse.lookup key

variable {p q : Parameters} {entries later : List (String × String)} {key value : String}

theorem lastValue_concat (k : String) : lastValue (entries ++ [(key, value)]) k =
    if k = key then some value else lastValue entries k := by
  rw [lastValue, List.reverse_concat, List.lookup_cons]
  by_cases h : k = key
  · simp [h]
  · rw [beq_false_of_ne h, if_neg h, lastValue]

theorem lastValue_append (k : String) :
    lastValue (entries ++ later) k = (lastValue later k).or (lastValue entries k) := by
  rw [lastValue, List.reverse_append, List.lookup_append, lastValue, lastValue]

theorem lastValue_eq_some_iff : lastValue entries key = some value ↔
    ∃ before after, entries = before ++ (key, value) :: after ∧ ∀ e ∈ after, e.1 ≠ key := by
  rw [lastValue, List.lookup_eq_some_iff]
  constructor
  · rintro ⟨after, before, h, hafter⟩
    refine ⟨before.reverse, after.reverse, by simpa using congrArg List.reverse h, fun e he => ?_⟩
    exact (bne_iff_ne.mp (hafter e (List.mem_reverse.mp he))).symm
  · rintro ⟨before, after, rfl, hafter⟩
    refine ⟨after.reverse, before.reverse, by simp, fun e he => ?_⟩
    exact bne_iff_ne.mpr (hafter e (List.mem_reverse.mp he)).symm

/-- Keys may be renamed if no two keys become one. -/
theorem lastValue_map_key {rename : String → String} (h : Function.Injective rename) (k : String) :
    lastValue (entries.map fun e => (rename e.1, e.2)) (rename k) = lastValue entries k := by
  induction entries using List.reverseRec with
  | nil => rfl
  | append_singleton entries e ih =>
    rw [List.map_append, List.map_singleton, lastValue_concat, lastValue_concat, ih]
    simp only [h.eq_iff]

/-- If no key is assigned twice, each assignment counts. -/
theorem lastValue_eq_some_iff_mem (h : (entries.map Prod.fst).Nodup) :
    lastValue entries key = some value ↔ (key, value) ∈ entries := by
  rw [lastValue_eq_some_iff]
  constructor
  · rintro ⟨before, after, rfl, -⟩
    exact List.mem_append_right before List.mem_cons_self
  · intro hmem
    obtain ⟨before, after, rfl⟩ := List.append_of_mem hmem
    rw [List.map_append, List.map_cons] at h
    have hafter : key ∉ after.map Prod.fst := (List.nodup_cons.mp h.of_append_right).1
    refine ⟨before, after, rfl, ?_⟩
    rintro e he rfl
    exact hafter (List.mem_map_of_mem he)

theorem ofList_concat : ofList (entries ++ [(key, value)]) = (ofList entries).insert key value := by
  simp only [ofList, insert, Std.ExtTreeMap.ofList_eq_insertMany_empty,
    Std.ExtTreeMap.insertMany_append, Std.ExtTreeMap.insertMany_list_singleton]

theorem get?_insert (p : Parameters) (k : String) :
    (p.insert key value).get? k = if k = key then some value else p.get? k := by
  by_cases h : k = key
  · simp [insert, get?, h]
  · simp [insert, get?, Std.ExtTreeMap.getElem?_insert, h, Ne.symm h]

/-- Parameters made from assignments hold what was assigned last. -/
theorem get?_ofList : (ofList entries).get? key = lastValue entries key := by
  induction entries using List.reverseRec with
  | nil => simp [ofList, get?, lastValue]
  | append_singleton entries e ih =>
    obtain ⟨k, v⟩ := e
    rw [ofList_concat, get?_insert, lastValue_concat, ih]

theorem get?_override (p q : Parameters) (key : String) :
    (p.override q).get? key = (q.get? key).or (p.get? key) :=
  Std.ExtTreeMap.getElem?_union

theorem ext_get? (h : ∀ key, p.get? key = q.get? key) : p = q := by
  cases p
  cases q
  exact congrArg mk (Std.ExtTreeMap.ext_getElem? h)

theorem ofList_append : ofList (entries ++ later) = (ofList entries).override (ofList later) := by
  refine ext_get? fun key => ?_
  rw [get?_override, get?_ofList, get?_ofList, get?_ofList, lastValue_append]

theorem mem_toList_iff : (key, value) ∈ p.toList ↔ p.get? key = some value :=
  Std.ExtTreeMap.mem_toList_iff_getElem?_eq_some

theorem length_toList (p : Parameters) : p.toList.length = p.size :=
  Std.ExtTreeMap.length_toList

theorem toList_ascending (p : Parameters) : p.toList.Pairwise fun a b => a.1 < b.1 :=
  p.values.ordered_keys_toList.imp fun h => compareOfLessAndEq_eq_lt.mp h

theorem nodup_keys_of_ascending (h : entries.Pairwise fun a b => a.1 < b.1) :
    (entries.map Prod.fst).Nodup :=
  List.pairwise_map.mpr (h.imp fun hab => ne_of_lt hab)

theorem nodup_keys_toList (p : Parameters) : (p.toList.map Prod.fst).Nodup :=
  nodup_keys_of_ascending p.toList_ascending

/-- Assignments to different keys are the entries of what they make. -/
theorem perm_toList_ofList (h : (entries.map Prod.fst).Nodup) :
    (ofList entries).toList.Perm entries := by
  refine (List.perm_ext_iff_of_nodup (nodup_keys_toList _).of_map h.of_map).mpr ?_
  rintro ⟨key, value⟩
  rw [mem_toList_iff, get?_ofList, lastValue_eq_some_iff_mem h]

theorem toList_ofList (h : entries.Pairwise fun a b => a.1 < b.1) :
    (ofList entries).toList = entries :=
  (perm_toList_ofList (nodup_keys_of_ascending h)).eq_of_pairwise
    (fun _ _ _ _ hab hba => absurd hab (lt_asymm hba)) (toList_ascending _) h

/-- The entries of parameters make them again, in whatever order they come. -/
theorem ofList_of_perm (h : entries.Perm p.toList) : ofList entries = p := by
  have hnodup : (entries.map Prod.fst).Nodup := (h.map Prod.fst).nodup_iff.mpr p.nodup_keys_toList
  refine ext_get? fun key => Option.ext fun value => ?_
  rw [get?_ofList, lastValue_eq_some_iff_mem hnodup, h.mem_iff, mem_toList_iff]

end ModuleClosure.Parameters
