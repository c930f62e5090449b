import ModuleClosure.Description.Reader
import ModuleClosure.Proofs.Description.Line
import ModuleClosure.Proofs.Reading

/-!
# The meaning of description files

A file is a description if each of its lines says something or is silent, and one of them names the
module. Single values come from the last line of their key; names add up; the bound for a name is the
last one among the dependencies, or else the first one among the suggestions. Otherwise the first
line that says nothing decides the failure, before a missing name.
-/
namespace ModuleClosure.Description
open Text

section Places

variable {α β : Type} {p : α → β → Prop} {f : α → Option β} {xs : List α} {b : β}

/-- What the first element that has something has. -/
def IsFirst (p : α → β → Prop) (xs : List α) (b : β) : Prop :=
  ∃ before x after, xs = before ++ x :: after ∧ p x b ∧ ∀ y ∈ before, ∀ c, ¬ p y c

/-- What the last element that has something has. -/
def IsLast (p : α → β → Prop) (xs : List α) (b : β) : Prop :=
  ∃ before x after, xs = before ++ x :: after ∧ p x b ∧ ∀ y ∈ after, ∀ c, ¬ p y c

theorem isFirst_iff (h : ∀ x b, p x b ↔ f x = some b) :
    IsFirst p xs b ↔ xs.findSome? f = some b := by
  simp only [IsFirst, List.findSome?_eq_some_iff, h, Option.eq_none_iff_forall_ne_some, ne_eq]

theorem isLast_iff (h : ∀ x b, p x b ↔ f x = some b) :
    IsLast p xs b ↔ xs.reverse.findSome? f = some b := by
  rw [← isFirst_iff h]
  constructor
  · rintro ⟨before, x, after, rfl, hx, hy⟩
    exact ⟨after.reverse, x, before.reverse, by simp, hx, by simpa using hy⟩
  · rintro ⟨before, x, after, hxs, hx, hy⟩
    refine ⟨after.reverse, x, before.reverse, ?_, hx, by simpa using hy⟩
    simpa using congrArg List.reverse hxs

theorem findSome?_reverse_eq_none_iff (h : ∀ x b, p x b ↔ f x = some b) :
    xs.reverse.findSome? f = none ↔ ∀ x ∈ xs, ∀ c, ¬ p x c := by
  rw [List.findSome?_eq_none_iff]
  simp only [List.mem_reverse, h, Option.eq_none_iff_forall_ne_some, ne_eq]

end Places

/-- A line that is blank, or a comment, or says something. -/
def Valid (line : List Char) : Prop :=
  trim line = [] ∨ (trim line).head? = some '#' ∨ ∃ field, Says (trim line) field

/-- An entry has a bound for a name. -/
def Binds (name : String) (entry : Dependency) (b : Bound) : Prop :=
  entry.name = name ∧ entry.bound = some b

/-- A line of dependencies has a bound for a name; the last one counts. -/
def BindsRequired (name : String) (line : List Char) (b : Bound) : Prop :=
  ∃ entries, Says (trim line) (.depends entries) ∧ IsLast (Binds name) entries b

/-- A line of suggestions has a bound for a name; the first one counts. -/
def BindsSuggested (name : String) (line : List Char) (b : Bound) : Prop :=
  ∃ entries, Says (trim line) (.suggests entries) ∧ IsFirst (Binds name) entries b

/-- A description has what the lines of a file say. -/
structure Describes (file : List (List Char)) (d : Description) : Prop where
  name : IsLast (fun line value => Says (trim line) (.name value)) file d.name
  version : ∀ value, d.version = some value ↔
    IsLast (fun line value => Says (trim line) (.version value)) file value
  maintainer : ∀ value, d.maintainer = some value ↔
    IsLast (fun line value => Says (trim line) (.maintainer value)) file value
  whitespaceHook : d.whitespaceHook = true ↔
    IsLast (fun line value => Says (trim line) (.whitespaceHook value)) file true
  depends : ∀ n, n ∈ d.depends ↔ ∃ line ∈ file, ∃ entries,
    Says (trim line) (.depends entries) ∧ ∃ entry ∈ entries, entry.name = n
  suggests : ∀ n, n ∈ d.suggests ↔ ∃ line ∈ file, ∃ entries,
    Says (trim line) (.suggests entries) ∧ ∃ entry ∈ entries, entry.name = n
  bounds : ∀ n b, d.bounds[n]? = some b ↔ IsLast (BindsRequired n) file b ∨
    (∀ line ∈ file, ∀ c, ¬ BindsRequired n line c) ∧ IsFirst (BindsSuggested n) file b

/-- A file fails at its first line that is not valid, or else for want of a name. -/
inductive Fails (file : List (List Char)) : Failure → Prop
  | line {before line after fault} (hfile : file = before ++ line :: after)
      (hbefore : ∀ x ∈ before, Valid x) (hline : ¬ Valid line)
      (hfault : Field.ofLine (trim line) = .error fault) :
      Fails file (.descriptionLine (before.length + 1) fault)
  | noName (hvalid : ∀ line ∈ file, Valid line)
      (hname : ∀ line ∈ file, ∀ name, ¬ Says (trim line) (.name name)) :
      Fails file (.invalid .noName)

/-- What a line of a file says. -/
def said? (line : List Char) : Option Field := (Field.ofLine (trim line)).toOption

variable {line : List Char} {file : List (List Char)} {field : Field} {n : String}

theorem said?_eq_some_iff : said? line = some field ↔ Says (trim line) field := by
  rw [← Field.ofLine_eq_ok_iff_says, said?]
  cases Field.ofLine (trim line) <;> simp [Except.toOption]

theorem isSkipped_iff {s : List Char} : isSkipped s = true ↔ s = [] ∨ s.head? = some '#' := by
  cases s <;> simp [isSkipped]

theorem Says.not_isSkipped {s : List Char} (h : Says s field) : isSkipped s = false := by
  obtain ⟨key, value, ⟨gap, rest, rfl, -, -⟩, -⟩ :=
    Field.ofLine_eq_ok_iff.mp (Field.ofLine_eq_ok_iff_says.mpr h)
  cases key <;> rfl

theorem said?_of_isSkipped (h : isSkipped (trim line) = true) : said? line = none := by
  refine Option.eq_none_iff_forall_ne_some.mpr fun field hf => ?_
  rw [(said?_eq_some_iff.mp hf).not_isSkipped] at h
  cases h

theorem valid_iff : Valid line ↔ isSkipped (trim line) = true ∨ ∃ field, said? line = some field := by
  simp only [Valid, isSkipped_iff, said?_eq_some_iff, or_assoc]

theorem fieldsFrom_cons_of_skipped {number : Nat} (h : isSkipped (trim line) = true) :
    fieldsFrom number (line :: file) = fieldsFrom (number + 1) file := by
  rw [fieldsFrom, if_pos h]

theorem fieldsFrom_cons_of_said {number : Nat} (h : said? line = some field) :
    fieldsFrom number (line :: file) = (fieldsFrom (number + 1) file).map (field :: ·) := by
  have hs : Says (trim line) field := said?_eq_some_iff.mp h
  rw [fieldsFrom, hs.not_isSkipped, Field.ofLine_eq_ok_iff_says.mpr hs]
  rfl

theorem fieldsFrom_cons_of_not_valid {number : Nat} {fault : LineFault} (h : ¬ Valid line)
    (hfault : Field.ofLine (trim line) = .error fault) :
    fieldsFrom number (line :: file) = .error (.descriptionLine number fault) := by
  rw [valid_iff, not_or] at h
  rw [fieldsFrom, if_neg h.1, hfault]

theorem exists_fault (h : ¬ Valid line) : ∃ fault, Field.ofLine (trim line) = .error fault := by
  rw [valid_iff, not_or] at h
  cases hl : Field.ofLine (trim line) with
  | ok field => exact absurd ⟨field, by simp [said?, hl, Except.toOption]⟩ h.2
  | error fault => exact ⟨fault, rfl⟩

/-- If all lines are valid the fields are those of the lines that say one. -/
theorem fieldsFrom_of_valid {number : Nat} (h : ∀ line ∈ file, Valid line) :
    fieldsFrom number file = .ok (file.filterMap said?) := by
  induction file generalizing number with
  | nil => rfl
  | cons line file ih =>
    obtain ⟨hline, hfile⟩ := List.forall_mem_cons.mp h
    rcases valid_iff.mp hline with hs | ⟨field, hf⟩
    · rw [fieldsFrom_cons_of_skipped hs, ih hfile, List.filterMap_cons_none (said?_of_isSkipped hs)]
    · rw [fieldsFrom_cons_of_said hf, ih hfile, List.filterMap_cons_some hf]
      rfl

/-- The first line that is not valid decides the failure. -/
theorem fieldsFrom_of_not_valid (number : Nat) {before : List (List Char)}
    (after : List (List Char)) {fault : LineFault} (hbefore : ∀ x ∈ before, Valid x)
    (h : ¬ Valid line) (hfault : Field.ofLine (trim line) = .error fault) :
    fieldsFrom number (before ++ line :: after) =
      .error (.descriptionLine (number + before.length) fault) := by
  -- Each line before the refused one takes a number, whether it says something or is silent.
  induction before generalizing number with
  | nil => exact fieldsFrom_cons_of_not_valid h hfault
  | cons x before ih =>
    obtain ⟨hx, hbefore⟩ := List.forall_mem_cons.mp hbefore
    have hnumber : number + 1 + before.length = number + (x :: before).length := by
      rw [List.length_cons]
      omega
    rw [List.cons_append, ← hnumber]
    rcases valid_iff.mp hx with hs | ⟨field, hf⟩
    · rw [fieldsFrom_cons_of_skipped hs, ih (number + 1) hbefore]
    · rw [fieldsFrom_cons_of_said hf, ih (number + 1) hbefore]
      rfl

/-- A single value comes from the last line that says one. -/
theorem lastOf_eq_some_iff {α : Type} {select : Field → Option α} {say : α → Field}
    (h : ∀ f v, select f = some v ↔ f = say v) {v : α} :
    lastOf select (file.filterMap said?) = some v ↔
      IsLast (fun line v => Says (trim line) (say v)) file v := by
  rw [lastOf, List.filterMap_filterMap, List.getLast?_filterMap, isLast_iff]
  intro line v
  simp only [Option.bind_eq_some_iff, h, exists_eq_right, said?_eq_some_iff]

theorem lastOf_eq_none_iff {α : Type} {select : Field → Option α} {say : α → Field}
    (h : ∀ f v, select f = some v ↔ f = say v) :
    lastOf select (file.filterMap said?) = none ↔
      ∀ line ∈ file, ∀ v, ¬ Says (trim line) (say v) := by
  rw [lastOf, List.filterMap_filterMap, List.getLast?_filterMap, findSome?_reverse_eq_none_iff]
  intro line v
  simp only [Option.bind_eq_some_iff, h, exists_eq_right, said?_eq_some_iff]

/-- The entries of a line that lists names under a key. -/
def entriesOf (get : Field → List Dependency) (line : List Char) : List Dependency :=
  ((said? line).map get).getD []

theorem flatMap_filterMap_said? (get : Field → List Dependency) :
    (file.filterMap said?).flatMap get = file.flatMap (entriesOf get) := by
  induction file with
  | nil => rfl
  | cons line file ih =>
    cases h : said? line <;> simp [h, ih, entriesOf]

/-- What holds of the entries of a line, but not of no entries, holds of what the line lists. -/
theorem entriesOf_iff {get : Field → List Dependency} {say : List Dependency → Field}
    (hsay : ∀ entries, get (say entries) = entries)
    (hget : ∀ f, get f = [] ∨ ∃ entries, f = say entries)
    {q : List Dependency → Prop} (hq : ¬ q []) :
    q (entriesOf get line) ↔ ∃ entries, Says (trim line) (say entries) ∧ q entries := by
  constructor
  · intro h
    cases hs : said? line with
    | none => exact absurd (by simpa [entriesOf, hs] using h) hq
    | some f =>
      -- A field of another key lists no entries, of which `q` does not hold.
      have hf : q (get f) := by simpa [entriesOf, hs] using h
      rcases hget f with he | ⟨entries, rfl⟩
      · exact absurd (he ▸ hf) hq
      · exact ⟨entries, said?_eq_some_iff.mp hs, hsay entries ▸ hf⟩
  · rintro ⟨entries, hs, h⟩
    simpa [entriesOf, said?_eq_some_iff.mpr hs, hsay] using h

theorem required_iff (q : List Dependency → Prop) (hq : ¬ q []) :
    q (entriesOf Field.required line) ↔ ∃ entries, Says (trim line) (.depends entries) ∧ q entries :=
  entriesOf_iff (fun _ => rfl) (fun f => by cases f <;> simp [Field.required]) hq

theorem suggested_iff (q : List Dependency → Prop) (hq : ¬ q []) :
    q (entriesOf Field.suggested line) ↔
      ∃ entries, Says (trim line) (.suggests entries) ∧ q entries :=
  entriesOf_iff (fun _ => rfl) (fun f => by cases f <;> simp [Field.suggested]) hq

theorem mem_namesOf {entries : List Dependency} :
    n ∈ namesOf entries ↔ ∃ entry ∈ entries, entry.name = n := by
  simp [namesOf, NameSet.ofNames, Std.ExtTreeSet.mem_ofList]

theorem mem_namesOf_flatMap {get : Field → List Dependency} :
    n ∈ namesOf (file.flatMap (entriesOf get)) ↔
      ∃ line ∈ file, ∃ entry ∈ entriesOf get line, entry.name = n := by
  rw [mem_namesOf]
  simp only [List.mem_flatMap]
  exact ⟨fun ⟨e, ⟨l, hl, he⟩, hn⟩ => ⟨l, hl, e, he, hn⟩, fun ⟨l, hl, e, he, hn⟩ => ⟨e, ⟨l, hl, he⟩, hn⟩⟩

/-- The bound of an entry for a name. -/
def boundFor (name : String) (entry : Dependency) : Option Bound :=
  if entry.name = name then entry.bound else none

theorem binds_iff (n : String) (entry : Dependency) (b : Bound) :
    Binds n entry b ↔ boundFor n entry = some b := by
  by_cases h : entry.name = n <;> simp [Binds, boundFor, h]

theorem getElem?_recordBound {bounds : NameMap Bound} {entry : Dependency} :
    (recordBound bounds entry)[n]? = (boundFor n entry).or bounds[n]? := by
  unfold recordBound boundFor
  cases entry.bound with
  | none => simp
  | some b => by_cases h : entry.name = n <;> simp [Std.ExtTreeMap.getElem?_insert, h]

theorem getElem?_foldl_recordBound {entries : List Dependency} {bounds : NameMap Bound} :
    (entries.foldl recordBound bounds)[n]? =
      (entries.filterMap (boundFor n)).getLast?.or bounds[n]? := by
  -- A later bound replaces the earlier ones, so the last one is found, and `bounds` only without one.
  induction entries generalizing bounds with
  | nil => simp
  | cons entry entries ih =>
    rw [List.foldl_cons, ih, getElem?_recordBound]
    cases h : boundFor n entry <;> simp [h, List.getLast?_cons]

/-- The last bound among the dependencies counts, or else the first among the suggestions. -/
theorem getElem?_boundsOf {required suggested : List Dependency} :
    (boundsOf required suggested)[n]? =
      (required.filterMap (boundFor n)).getLast?.or (suggested.filterMap (boundFor n)).head? := by
  rw [boundsOf, getElem?_foldl_recordBound]
  simp [List.filterMap_append, List.filterMap_reverse, List.getLast?_append]

theorem bindsRequired_iff (n : String) (line : List Char) (b : Bound) : BindsRequired n line b ↔
    ((entriesOf Field.required line).filterMap (boundFor n)).getLast? = some b := by
  rw [List.getLast?_filterMap, ← isLast_iff (binds_iff n)]
  exact (required_iff (IsLast (Binds n) · b) (by simp [IsLast])).symm

theorem bindsSuggested_iff (n : String) (line : List Char) (b : Bound) : BindsSuggested n line b ↔
    ((entriesOf Field.suggested line).filterMap (boundFor n)).head? = some b := by
  rw [List.head?_filterMap, ← isFirst_iff (binds_iff n)]
  exact (suggested_iff (IsFirst (Binds n) · b) (by simp [IsFirst])).symm

theorem getElem?_boundsOf_eq_some_iff {b : Bound} :
    (boundsOf (file.flatMap (entriesOf Field.required))
      (file.flatMap (entriesOf Field.suggested)))[n]? = some b ↔
    IsLast (BindsRequired n) file b ∨
      (∀ line ∈ file, ∀ c, ¬ BindsRequired n line c) ∧ IsFirst (BindsSuggested n) file b := by
  rw [getElem?_boundsOf, List.filterMap_flatMap, List.filterMap_flatMap, List.getLast?_flatMap,
    List.head?_flatMap, Option.or_eq_some_iff, isLast_iff (bindsRequired_iff n),
    isFirst_iff (bindsSuggested_iff n), findSome?_reverse_eq_none_iff (bindsRequired_iff n)]

section Selectors

variable {f : Field}

theorem name?_eq_some_iff {v : String} : f.name? = some v ↔ f = .name v := by
  cases f <;> simp [Field.name?]

theorem version?_eq_some_iff {v : String} : f.version? = some v ↔ f = .version v := by
  cases f <;> simp [Field.version?]

theorem maintainer?_eq_some_iff {v : String} : f.maintainer? = some v ↔ f = .maintainer v := by
  cases f <;> simp [Field.maintainer?]

theorem whitespaceHook?_eq_some_iff {v : Bool} :
    f.whitespaceHook? = some v ↔ f = .whitespaceHook v := by
  cases f <;> simp [Field.whitespaceHook?]

end Selectors

/-- The fields of a file give the description that its lines say. -/
theorem describes_ofFields {d : Description} (h : ofFields (file.filterMap said?) = .ok d) :
    Describes file d := by
  unfold ofFields at h
  split at h
  · cases h
  rename_i name hname
  cases h
  rw [flatMap_filterMap_said?, flatMap_filterMap_said?]
  refine ⟨(lastOf_eq_some_iff fun _ _ => name?_eq_some_iff).mp hname, fun v => ?_, fun v => ?_, ?_,
    fun n => ?_, fun n => ?_, fun n b => getElem?_boundsOf_eq_some_iff⟩
  · exact lastOf_eq_some_iff fun _ _ => version?_eq_some_iff
  · exact lastOf_eq_some_iff fun _ _ => maintainer?_eq_some_iff
  · rw [← lastOf_eq_some_iff fun _ _ => whitespaceHook?_eq_some_iff]
    cases lastOf Field.whitespaceHook? (file.filterMap said?) <;> simp
  · rw [mem_namesOf_flatMap]
    exact exists_congr fun line => and_congr_right fun _ =>
      required_iff (∃ entry ∈ ·, entry.name = n) (by simp)
  · rw [mem_namesOf_flatMap]
    exact exists_congr fun line => and_congr_right fun _ =>
      suggested_iff (∃ entry ∈ ·, entry.name = n) (by simp)

/-- Valid lines give a description, or else none of them names the module. -/
theorem ofFields_cases (file : List (List Char)) :
    (∃ d, ofFields (file.filterMap said?) = .ok d ∧
      ∃ line ∈ file, ∃ name, Says (trim line) (.name name)) ∨
    ofFields (file.filterMap said?) = .error (.invalid .noName) ∧
      ∀ line ∈ file, ∀ name, ¬ Says (trim line) (.name name) := by
  cases hname : lastOf Field.name? (file.filterMap said?) with
  | none =>
    refine .inr ⟨by rw [ofFields, hname], ?_⟩
    exact (lastOf_eq_none_iff fun _ _ => name?_eq_some_iff).mp hname
  | some name =>
    obtain ⟨before, line, after, hfile, hline, -⟩ :=
      (lastOf_eq_some_iff fun _ _ => name?_eq_some_iff).mp hname
    refine .inl ⟨_, by rw [ofFields, hname], line, ?_, name, hline⟩
    simp [hfile]

/-- What the lines say makes one description at most. -/
theorem Describes.unique {d e : Description} (hd : Describes file d) (he : Describes file e) :
    d = e := by
  have hlast : ∀ {d : Description}, Describes file d →
      lastOf Field.name? (file.filterMap said?) = some d.name :=
    fun h => (lastOf_eq_some_iff fun _ _ => name?_eq_some_iff).mpr h.name
  have hname : d.name = e.name := Option.some.inj ((hlast hd).symm.trans (hlast he))
  have hversion : d.version = e.version :=
    Option.ext fun v => (hd.version v).trans (he.version v).symm
  have hmaintainer : d.maintainer = e.maintainer :=
    Option.ext fun v => (hd.maintainer v).trans (he.maintainer v).symm
  have hhook : d.whitespaceHook = e.whitespaceHook :=
    Bool.eq_iff_iff.mpr (hd.whitespaceHook.trans he.whitespaceHook.symm)
  have hdepends : d.depends = e.depends :=
    Std.ExtTreeSet.ext_mem fun n => (hd.depends n).trans (he.depends n).symm
  have hsuggests : d.suggests = e.suggests :=
    Std.ExtTreeSet.ext_mem fun n => (hd.suggests n).trans (he.suggests n).symm
  have hbounds : d.bounds = e.bounds :=
    Std.ExtTreeMap.ext_getElem? fun n =>
      Option.ext fun b => (hd.bounds n b).trans (he.bounds n b).symm
  cases d
  cases e
  simp_all

section Reading

variable {text : String} {d : Description} {f : Failure}

theorem read_of_valid (h : ∀ line ∈ lines text.toList, Valid line) :
    read text = ofFields ((lines text.toList).filterMap said?) := by
  rw [read, fieldsFrom_of_valid h]
  rfl

theorem read_of_describes (h : ∀ line ∈ lines text.toList, Valid line)
    (hd : Describes (lines text.toList) d) : read text = .ok d := by
  rw [read_of_valid h]
  rcases ofFields_cases (lines text.toList) with ⟨e, he, -⟩ | ⟨-, hname⟩
  · rw [he, hd.unique (describes_ofFields he)]
  · obtain ⟨before, line, after, hfile, hline, -⟩ := hd.name
    exact absurd hline (hname line (by simp [hfile]) d.name)

theorem read_of_fails (h : Fails (lines text.toList) f) : read text = .error f := by
  cases h with
  | line hfile hbefore hline hfault =>
    rw [read, hfile, fieldsFrom_of_not_valid 1 _ hbefore hline hfault, Nat.add_comm]
    rfl
  | noName hvalid hname =>
    rw [read_of_valid hvalid]
    rcases ofFields_cases (lines text.toList) with ⟨-, -, line, hline, name, hsays⟩ | ⟨herr, -⟩
    · exact absurd hsays (hname line hline name)
    · exact herr

/-- Each text is described or fails. -/
theorem describes_or_fails (text : String) :
    (∃ d, (∀ line ∈ lines text.toList, Valid line) ∧ Describes (lines text.toList) d) ∨
      ∃ f, Fails (lines text.toList) f := by
  by_cases hall : ∀ line ∈ lines text.toList, Valid line
  · rcases ofFields_cases (lines text.toList) with ⟨d, hd, -⟩ | ⟨-, hname⟩
    · exact .inl ⟨d, hall, describes_ofFields hd⟩
    · exact .inr ⟨_, .noName hall hname⟩
  · obtain ⟨before, line, after, hfile, hbefore, hline⟩ := exists_first_not hall
    obtain ⟨fault, hfault⟩ := exists_fault hline
    exact .inr ⟨_, .line hfile hbefore hline hfault⟩

theorem read_eq_ok_iff : read text = .ok d ↔
    (∀ line ∈ lines text.toList, Valid line) ∧ Describes (lines text.toList) d :=
  eq_ok_iff_of_or (fun h => read_of_describes h.1 h.2) read_of_fails (describes_or_fails text)

theorem read_eq_error_iff : read text = .error f ↔ Fails (lines text.toList) f :=
  eq_error_iff_of_or (fun h => read_of_describes h.1 h.2) read_of_fails (describes_or_fails text)

theorem exists_read_eq_ok_iff : (∃ d, read text = .ok d) ↔
    (∀ line ∈ lines text.toList, Valid line) ∧
      ∃ line ∈ lines text.toList, ∃ name, Says (trim line) (.name name) := by
  constructor
  · rintro ⟨d, h⟩
    obtain ⟨hvalid, hd⟩ := read_eq_ok_iff.mp h
    obtain ⟨before, line, after, hfile, hline, -⟩ := hd.name
    exact ⟨hvalid, line, by simp [hfile], d.name, hline⟩
  · rintro ⟨hvalid, line, hline, name, hsays⟩
    rcases describes_or_fails text with ⟨d, -, hd⟩ | ⟨f, hf⟩
    · exact ⟨d, read_of_describes hvalid hd⟩
    · cases hf with
      | line hfile _ hbad _ => exact absurd (hvalid _ (by simp [hfile])) hbad
      | noName _ hname => exact absurd hsays (hname line hline name)

end Reading

/-- A text is a description exactly if all its lines are valid and one names the module; what the
lines say is then the description. Otherwise it fails at the first line that is not valid, or else
for want of a name. -/
theorem read_meaning (text : String) :
    ((∃ d, read text = .ok d) ↔ (∀ line ∈ lines text.toList, Valid line) ∧
      ∃ line ∈ lines text.toList, ∃ name, Says (trim line) (.name name)) ∧
    (∀ d, read text = .ok d ↔
      (∀ line ∈ lines text.toList, Valid line) ∧ Describes (lines text.toList) d) ∧
    ∀ f, read text = .error f ↔ Fails (lines text.toList) f :=
  ⟨exists_read_eq_ok_iff, fun _ => read_eq_ok_iff, fun _ => read_eq_error_iff⟩

example :
    ((read "Suggests: c (>= 1) b (>= 1)\nDepends: b (> 2)\nModule: a\nSuggests: c (< 3)\nModule: d").map
      fun d => (d.name, d.suggests.toList, d.bounds["b"]?, d.bounds["c"]?)).toOption =
    some ("d", ["b", "c"], some ⟨.above, "2"⟩, some ⟨.atLeast, "1"⟩) := by
  decide +kernel

end ModuleClosure.Description
