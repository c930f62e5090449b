import Mathlib.Data.List.Nodup
import ModuleClosure.Description.Json
import ModuleClosure.Proofs.Json.Compact

/-!
# Descriptions are read back from JSON

The object of a description has the fields in their order, less those that have nothing to say, and
reading fills in what was left out. So nothing of a description is lost, neither in its object nor
in the compact text of it.
-/
namespace ModuleClosure

theorem NameSet.ofNames_toList (s : NameSet) : ofNames s.toList = s :=
  Std.ExtTreeSet.ext_mem fun name => by simp [ofNames]

theorem NameMap.ofEntries_toList {α : Type} (m : NameMap α) : ofEntries m.toList = m := by
  refine Std.ExtTreeMap.ext_getElem? fun name => ?_
  by_cases h : name ∈ m
  · have hentry : (name, m[name]) ∈ m.toList := by
      rw [Std.ExtTreeMap.mem_toList_iff_getElem?_eq_some]
      exact Std.ExtTreeMap.getElem?_eq_some_getElem h
    rw [ofEntries, Std.ExtTreeMap.getElem?_ofList_of_mem Std.ReflCmp.compare_self
      Std.ExtTreeMap.distinct_keys_toList hentry, Std.ExtTreeMap.getElem?_eq_some_getElem h]
  · have hname : (m.toList.map Prod.fst).contains name = false := by
      simpa [Std.ExtTreeMap.map_fst_toList_eq_keys] using h
    rw [ofEntries, Std.ExtTreeMap.getElem?_ofList_of_contains_eq_false hname,
      Std.ExtTreeMap.getElem?_eq_none h]

namespace Json

theorem memberDocuments_eq_map (ms : List (String × Json)) :
    memberDocuments ms = ms.map fun m => (m.1, m.2.document) := by
  induction ms with
  | nil => rfl
  | cons m ms ih => rw [memberDocuments, ih, List.map_cons]

theorem texts?_document (ss : List String) : (texts ss).document.texts? = some ss := by
  have hread (ss : List String) : (documents (ss.map text)).mapM Document.text? = some ss := by
    induction ss with
    | nil => rfl
    | cons s ss ih =>
      rw [List.map_cons, documents, List.mapM_cons, ih]
      rfl
  exact hread ss

theorem entries?_document {α : Type} {read : Document → Option α} {write : α → Json}
    (h : ∀ a, read (write a).document = some a) (entries : List (String × α)) :
    (object (entries.map fun e => (e.1, write e.2))).document.entries? read = some entries := by
  have hread (entries : List (String × α)) :
      (memberDocuments (entries.map fun e => (e.1, write e.2))).mapM
        (fun m => (read m.2).map (m.1, ·)) = some entries := by
    induction entries with
    | nil => rfl
    | cons e entries ih =>
      rw [List.map_cons, memberDocuments, List.mapM_cons, ih, h]
      rfl
  exact hread entries

end Json

namespace Document

variable {α : Type} {names : List String} {ms : List (String × Document)}

theorem fields?_record (h : (ms.map Prod.fst).Nodup) :
    fields? names (.record ms) = some fun name => ms.lookup name := by
  have honce (name : String) : (ms.filter (·.1 == name)).length ≤ 1 := by
    have hcount := List.nodup_iff_count_le_one.mp h name
    rwa [List.count, List.countP_map, List.countP_eq_length_filter] at hcount
  rw [fields?, if_neg]
  simpa using fun name _ => honce name

/-- Members made from names are found by their names. -/
theorem lookup_filterMap {value? : String → Option α} (name : String) :
    (names.filterMap fun n => (value? n).map (n, ·)).lookup name =
      if name ∈ names then value? name else none := by
  induction names with
  | nil => rfl
  | cons n names ih =>
    by_cases hn : name = n
    · subst hn
      cases hvalue : value? name with
      | none => simp [hvalue, ih]
      | some a => simp [hvalue]
    · cases hvalue : value? n with
      | none => simp [hvalue, ih, hn]
      | some a => simp [hvalue, ih, hn, List.lookup_cons, beq_false_of_ne hn]

theorem map_fst_filterMap {value? : String → Option α} :
    (names.filterMap fun n => (value? n).map (n, ·)).map Prod.fst =
      names.filter fun n => (value? n).isSome := by
  rw [List.map_filterMap, ← List.filterMap_eq_filter]
  refine congrArg (List.filterMap · names) (funext fun n => ?_)
  cases h : value? n <;> simp [Option.guard, h]

end Document

theorem Comparison.ofSymbol?_symbol (c : Comparison) : ofSymbol? c.symbol = some c := by
  cases c <;> decide

theorem Bound.ofDocument?_toJson (b : Bound) : ofDocument? b.toJson.document = some b := by
  have hcomparison : Comparison.ofDocument? (Json.text b.comparison.symbol).document =
      some b.comparison := Comparison.ofSymbol?_symbol b.comparison
  have hnames : ["op", "version"].Nodup := by decide
  have hfields : b.toJson.document.fields? ["op", "version"] = some fun name =>
      [("op", (Json.text b.comparison.symbol).document),
        ("version", (Json.text b.version).document)].lookup name :=
    Document.fields?_record hnames
  rw [ofDocument?, hfields]
  change (Comparison.ofDocument? (Json.text b.comparison.symbol).document).bind _ = _
  rw [hcomparison]
  rfl

namespace Description
open Json

/-- What a description has to say in a field. -/
def value? (d : Description) (field : String) : Option Json :=
  match field with
  | "name" => some (.text d.name)
  | "version" => d.version.map .text
  | "maintainer" => d.maintainer.map .text
  | "whitespace_hook" => some (.bool d.whitespaceHook)
  | "depends" => some (.texts d.depends.toList)
  | "suggests" => some (.texts d.suggests.toList)
  | "constraints" =>
    if d.bounds.isEmpty then none
    else some (.object (d.bounds.toList.map fun e => (e.1, e.2.toJson)))
  | _ => none

/-- Whether a field is written: version, maintainer and bounds only if there are any. -/
def isWritten (d : Description) (field : String) : Bool :=
  if field = "version" then d.version.isSome
  else if field = "maintainer" then d.maintainer.isSome
  else if field = "constraints" then !d.bounds.isEmpty
  else true

theorem optionalMember_eq (name : String) (o : Option String) :
    optionalMember name o = ((o.map Json.text).map (name, ·)).toList := by
  cases o <;> rfl

theorem boundsMember_eq (d : Description) :
    boundsMember d.bounds = ((d.value? "constraints").map ("constraints", ·)).toList := by
  rw [boundsMember, value?]
  cases d.bounds.isEmpty <;> rfl

/-- The object has those fields in which there is something to say. -/
theorem toJson_eq (d : Description) :
    d.toJson = .object (fieldNames.filterMap fun field => (d.value? field).map (field, ·)) := by
  rw [toJson, optionalMember_eq, optionalMember_eq, boundsMember_eq,
    List.filterMap_eq_flatMap_toList]
  simp only [List.append_assoc, fieldNames, List.flatMap_cons, List.flatMap_nil, List.append_nil]
  rfl

theorem isSome_value? (d : Description) :
    ∀ field ∈ fieldNames, (d.value? field).isSome = d.isWritten field := by
  simp only [fieldNames, List.forall_mem_cons]
  refine ⟨rfl, ?_, ?_, rfl, rfl, rfl, ?_, nofun⟩
  · simp [value?, isWritten]
  · simp [value?, isWritten]
  · cases h : d.bounds.isEmpty <;> simp [value?, isWritten, h]

theorem isPlain_texts (ss : List String) : IsPlain (texts ss) := by
  refine .array fun j hj => ?_
  obtain ⟨s, -, rfl⟩ := List.mem_map.mp hj
  exact .text s

theorem isPlain_bound (b : Bound) : IsPlain b.toJson := by
  refine .object fun m hm => ?_
  rcases List.mem_pair.mp hm with rfl | rfl <;> exact .text _

theorem isPlain_of_value? {d : Description} {field : String} {j : Json}
    (h : d.value? field = some j) : IsPlain j := by
  unfold value? at h
  split at h
  · obtain rfl := Option.some.inj h
    exact .text _
  · obtain ⟨s, -, rfl⟩ := Option.map_eq_some_iff.mp h
    exact .text s
  · obtain ⟨s, -, rfl⟩ := Option.map_eq_some_iff.mp h
    exact .text s
  · obtain rfl := Option.some.inj h
    exact .bool _
  · obtain rfl := Option.some.inj h
    exact isPlain_texts _
  · obtain rfl := Option.some.inj h
    exact isPlain_texts _
  · split at h
    · cases h
    · obtain rfl := Option.some.inj h
      refine .object fun m hm => ?_
      obtain ⟨e, -, rfl⟩ := List.mem_map.mp hm
      exact isPlain_bound e.2
  · cases h

theorem isPlain_toJson (d : Description) : IsPlain d.toJson := by
  rw [toJson_eq]
  refine .object fun m hm => ?_
  obtain ⟨field, -, hfield⟩ := List.mem_filterMap.mp hm
  obtain ⟨j, hvalue, rfl⟩ := Option.map_eq_some_iff.mp hfield
  exact isPlain_of_value? hvalue

theorem document_toJson (d : Description) : d.toJson.document =
    .record (fieldNames.filterMap fun field => ((d.value? field).map document).map (field, ·)) := by
  rw [toJson_eq, document, memberDocuments_eq_map, List.map_filterMap]
  refine congrArg (fun f => Document.record (fieldNames.filterMap f)) (funext fun field => ?_)
  cases d.value? field <;> rfl

/-- The fields of a description are found in its object. -/
theorem exists_fields?_toJson (d : Description) :
    ∃ found, d.toJson.document.fields? fieldNames = some found ∧
      ∀ field ∈ fieldNames, found field = (d.value? field).map document := by
  have hnames : fieldNames.Nodup := by decide
  rw [document_toJson]
  refine ⟨_, Document.fields?_record ?_, fun field hfield => ?_⟩
  · rw [Document.map_fst_filterMap]
    exact hnames.filter _
  · rw [Document.lookup_filterMap, if_pos hfield]

/-- A description is read back from its object. -/
theorem ofJson?_toJson (d : Description) : ofJson? d.toJson = some d := by
  obtain ⟨found, hfields, hfound⟩ := exists_fields?_toJson d
  have hset (s : NameSet) : nameSet? (texts s.toList).document = some s := by
    rw [nameSet?, texts?_document, Option.map_some, NameSet.ofNames_toList]
  have hoptional (o : Option String) :
      Document.withDefault? none (Document.optional? Document.text?)
        ((o.map Json.text).map document) = some o := by
    cases o <;> rfl
  have hname : Document.required? Document.text? (found "name") = some d.name := by
    rw [hfound _ (by decide)]
    rfl
  have hversion : Document.withDefault? none (Document.optional? Document.text?)
      (found "version") = some d.version := by
    rw [hfound _ (by decide)]
    exact hoptional d.version
  have hmaintainer : Document.withDefault? none (Document.optional? Document.text?)
      (found "maintainer") = some d.maintainer := by
    rw [hfound _ (by decide)]
    exact hoptional d.maintainer
  have hhook : Document.withDefault? false Document.truth? (found "whitespace_hook") =
      some d.whitespaceHook := by
    rw [hfound _ (by decide)]
    rfl
  have hdepends : Document.withDefault? ∅ nameSet? (found "depends") = some d.depends := by
    rw [hfound _ (by decide)]
    exact hset d.depends
  have hsuggests : Document.withDefault? ∅ nameSet? (found "suggests") = some d.suggests := by
    rw [hfound _ (by decide)]
    exact hset d.suggests
  have hbounds : Document.withDefault? ∅ boundMap? (found "constraints") = some d.bounds := by
    rw [hfound _ (by decide)]
    by_cases hempty : d.bounds.isEmpty = true
    · rw [value?, if_pos hempty]
      exact congrArg some (Std.ExtTreeMap.isEmpty_iff.mp hempty).symm
    · rw [value?, if_neg hempty, Option.map_some, Document.withDefault?, boundMap?,
        entries?_document Bound.ofDocument?_toJson, Option.map_some, NameMap.ofEntries_toList]
  rw [ofJson?, ofDocument?, hfields]
  simp only [Option.bind_eq_bind, Option.bind_some, hname, hversion, hmaintainer, hhook, hdepends,
    hsuggests, hbounds]
  rfl

/-- A description is read back from its compact text. -/
theorem read?_toJson (d : Description) : (read? d.toJson.compact).bind ofJson? = some d := by
  rw [read?_compact (isPlain_toJson d), Option.bind_some, ofJson?_toJson]

/-- The object of a description has a member for each field, in their order, but for version,
maintainer and bounds where there are none. Reading it, or its compact text, gives the description
again, so descriptions with the same compact text are the same. -/
theorem toJson_lossless (d : Description) :
    (∃ members, d.toJson = .object members ∧
      members.map Prod.fst = fieldNames.filter d.isWritten) ∧
    ofJson? d.toJson = some d ∧
    (read? d.toJson.compact).bind ofJson? = some d ∧
    ∀ e : Description, d.toJson.compact = e.toJson.compact ↔ d = e := by
  refine ⟨⟨_, toJson_eq d, ?_⟩, ofJson?_toJson d, read?_toJson d, fun e => ⟨fun h => ?_, ?_⟩⟩
  · rw [Document.map_fst_filterMap]
    exact List.filter_congr (isSome_value? d)
  · have hread := read?_toJson d
    rw [h, read?_toJson e] at hread
    exact (Option.some.inj hread).symm
  · rintro rfl
    rfl

end Description
end ModuleClosure
