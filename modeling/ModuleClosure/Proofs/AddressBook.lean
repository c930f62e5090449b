import ModuleClosure.AddressBook

/-!
# Addresses in a book

A book with the addresses of a map registered finds those of the map before its own, whatever order
they are registered in.
-/
namespace ModuleClosure

/-- Entries of different names that are put into a map come before what the map had. -/
theorem NameMap.getElem?_insertMany_iff {α : Type} {m : NameMap α} {entries : List (String × α)}
    {name : String} {value : α} (hdistinct : entries.Pairwise fun a b => ¬ compare a.1 b.1 = .eq) :
    (m.insertMany entries)[name]? = some value ↔ (name, value) ∈ entries ∨
      name ∉ entries.map Prod.fst ∧ m[name]? = some value := by
  have hmem {v : α} (h : (name, v) ∈ entries) : (m.insertMany entries)[name]? = some v :=
    Std.ExtTreeMap.getElem?_insertMany_list_of_mem Std.ReflCmp.compare_self hdistinct h
  by_cases hname : name ∈ entries.map Prod.fst
  · obtain ⟨⟨n, v⟩, hentry, rfl⟩ := List.mem_map.mp hname
    rw [hmem hentry]
    refine ⟨fun h => .inl (Option.some.inj h ▸ hentry), ?_⟩
    rintro (h | ⟨habsent, -⟩)
    · exact (hmem hentry).symm.trans (hmem h)
    · exact absurd hname habsent
  · have hcontains : (entries.map Prod.fst).contains name = false := by simpa using hname
    have habsent : (name, value) ∉ entries := fun h => hname (List.mem_map_of_mem h)
    rw [Std.ExtTreeMap.getElem?_insertMany_list_of_contains_eq_false hcontains]
    exact ⟨fun h => .inr ⟨hname, h⟩, fun h => (h.resolve_left habsent).2⟩

namespace AddressBook

variable {name address : String}

theorem addresses_registerAll (book : AddressBook) (entries : List (String × String)) :
    (book.registerAll entries).1.addresses = book.addresses.insertMany entries := by
  induction entries generalizing book with
  | nil => rw [Std.ExtTreeMap.insertMany_nil]; rfl
  | cons entry entries ih =>
    rw [Std.ExtTreeMap.insertMany_cons]
    exact ih _

theorem get?_registerAll (book : AddressBook) (m : NameMap String) (name : String) :
    (book.registerAll m.toList).1.get? name = m[name]?.or (book.get? name) := by
  ext address
  rw [get?, addresses_registerAll,
    NameMap.getElem?_insertMany_iff Std.ExtTreeMap.distinct_keys_toList,
    Std.ExtTreeMap.mem_toList_iff_getElem?_eq_some, Std.ExtTreeMap.map_fst_toList_eq_keys,
    Std.ExtTreeMap.mem_keys, ← getElem?_eq_none_iff, Option.or_eq_some_iff]
  rfl

theorem get?_official_iff :
    official.get? name = some address ↔ (name, address) ∈ officialAddresses := by
  have hdistinct : officialAddresses.Pairwise fun a b => ¬ compare a.1 b.1 = .eq := by
    decide +kernel
  rw [get?, official, NameMap.ofEntries, Std.ExtTreeMap.ofList_eq_insertMany_empty,
    NameMap.getElem?_insertMany_iff hdistinct]
  simp

variable {book : AddressBook} {hints : NameMap String}

theorem resolve_of_hint (h : hints[name]? = some address) (hne : address ≠ "") :
    book.resolve hints name = .ok address := by
  have hkept : (some address).filter (· ≠ "") = some address :=
    Option.filter_some_pos (by simpa using hne)
  rw [resolve, h, hkept, Option.some_or]

theorem noAddress_of_resolve {failure : Failure} (h : book.resolve hints name = .error failure) :
    failure = .noAddress name := by
  rw [resolve] at h
  split at h
  · cases h
  · exact (Except.error.inj h).symm

/-- Without a hint, or with an empty one, the book decides. -/
theorem resolve_of_blank (h : ∀ a, hints[name]? = some a → a = "") :
    book.resolve hints name = (book.get? name).elim (.error (.noAddress name)) .ok := by
  have hnone : hints[name]?.filter (· ≠ "") = none := by
    rw [Option.filter_eq_none_iff]
    intro a ha
    simpa using h a ha
  rw [resolve, hnone, Option.none_or]
  cases book.get? name <;> rfl

end AddressBook
end ModuleClosure
