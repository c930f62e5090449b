import ModuleClosure.CommandLine.Run
import ModuleClosure.Proofs.AddressBook
import ModuleClosure.Proofs.CommandLine.Hint
import ModuleClosure.Proofs.Description.File
import ModuleClosure.Proofs.Source.Clones

/-!
# The address of a module

The options of a closure and its settings file both say where modules are. The last hint of the
options for a name comes before the hint of the file, which comes before the repositories of the
file and the official ones. An empty hint counts as none, and still hides the hint of the file.
-/
namespace ModuleClosure.CommandLine
open Description (IsLast isLast_iff findSome?_reverse_eq_none_iff)

variable {file s : Settings} {texts : List String} {hints : List (String × String)}
  {name address : String} {found : Except Failure String}

/-- What a text hints for a name. -/
def hinted? (name text : String) : Option String :=
  match readHint text with
  | .ok hint => if hint.1 = name then some hint.2 else none
  | .error _ => none

theorem hints_iff (text address : String) :
    Hints text (name, address) ↔ hinted? name text = some address := by
  rw [← readHint_eq_ok_iff, hinted?]
  cases readHint text with
  | error fault => simp
  | ok hint =>
    obtain ⟨n, a⟩ := hint
    by_cases h : n = name <;> simp [h]

/-- The hint for a module: the last one of texts, or else that of settings. -/
def Prefers (file : Settings) (texts : List String) (name address : String) : Prop :=
  IsLast (fun text a => Hints text (name, a)) texts address ∨
    (∀ text ∈ texts, ∀ a, ¬ Hints text (name, a)) ∧ file.hints[name]? = some address

def preferred? (file : Settings) (texts : List String) (name : String) : Option String :=
  (texts.reverse.findSome? (hinted? name)).or file.hints[name]?

theorem prefers_iff :
    Prefers file texts name address ↔ preferred? file texts name = some address := by
  rw [Prefers, isLast_iff hints_iff, ← findSome?_reverse_eq_none_iff hints_iff, preferred?,
    Option.or_eq_some_iff]

/-- Where a module is, by hints and the settings of a file. -/
inductive Finds (file : Settings) (texts : List String) (name : String) :
    Except Failure String → Prop
  | preferred {address : String} (h : Prefers file texts name address) (hne : address ≠ "") :
      Finds file texts name (.ok address)
  | added {address : String} (hblank : ∀ a, Prefers file texts name a → a = "")
      (h : file.repositories[name]? = some address) : Finds file texts name (.ok address)
  | official {address : String} (hblank : ∀ a, Prefers file texts name a → a = "")
      (hnew : file.repositories[name]? = none)
      (h : (name, address) ∈ AddressBook.officialAddresses) : Finds file texts name (.ok address)
  | nowhere (hblank : ∀ a, Prefers file texts name a → a = "")
      (hnew : file.repositories[name]? = none)
      (h : ∀ a, (name, a) ∉ AddressBook.officialAddresses) :
      Finds file texts name (.error (.noAddress name))

theorem exists_finds (file : Settings) (texts : List String) (name : String) :
    ∃ found, Finds file texts name found := by
  by_cases hblank : ∀ a, Prefers file texts name a → a = ""
  · cases hadded : file.repositories[name]? with
    | some address => exact ⟨_, .added hblank hadded⟩
    | none =>
      by_cases hofficial : ∃ a, (name, a) ∈ AddressBook.officialAddresses
      · obtain ⟨address, h⟩ := hofficial
        exact ⟨_, .official hblank hadded h⟩
      · exact ⟨_, .nowhere hblank hadded (not_exists.mp hofficial)⟩
  · simp only [not_forall] at hblank
    obtain ⟨address, h, hne⟩ := hblank
    exact ⟨_, .preferred h hne⟩

section Finds

variable {book : AddressBook} {known : NameMap String}
  (hknown : known[name]? = preferred? file texts name)
  (hbook : book.get? name = file.repositories[name]?.or (AddressBook.official.get? name))
include hknown hbook

theorem Finds.resolve (h : Finds file texts name found) : book.resolve known name = found := by
  have hprefers {a : String} (ha : known[name]? = some a) : Prefers file texts name a :=
    prefers_iff.mpr (hknown.symm.trans ha)
  cases h with
  | preferred h hne => exact AddressBook.resolve_of_hint (hknown.trans (prefers_iff.mp h)) hne
  | added hblank h =>
    rw [AddressBook.resolve_of_blank fun a ha => hblank a (hprefers ha), hbook, h]
    rfl
  | official hblank hnew h =>
    rw [AddressBook.resolve_of_blank fun a ha => hblank a (hprefers ha), hbook, hnew,
      AddressBook.get?_official_iff.mpr h]
    rfl
  | nowhere hblank hnew h =>
    have hofficial : AddressBook.official.get? name = none :=
      Option.eq_none_iff_forall_ne_some.mpr fun a ha => h a (AddressBook.get?_official_iff.mp ha)
    rw [AddressBook.resolve_of_blank fun a ha => hblank a (hprefers ha), hbook, hnew, hofficial]
    rfl

theorem finds_iff : Finds file texts name found ↔ book.resolve known name = found := by
  refine ⟨fun h => h.resolve hknown hbook, ?_⟩
  rintro rfl
  obtain ⟨found, h⟩ := exists_finds file texts name
  rwa [h.resolve hknown hbook]

end Finds

section Settings

/-- Hints that are laid over settings come before those of the settings, the last one first. -/
theorem getElem?_foldl_withHint (h : HintsAll texts hints) (s : Settings) (name : String) :
    (hints.foldl (fun s hint => s.withHint hint.1 hint.2) s).hints[name]? =
      preferred? s texts name := by
  induction h generalizing s with
  | nil => rfl
  | @cons text hint texts hints hhint _ ih =>
    have hput : (s.withHint hint.1 hint.2).hints[name]? =
        (hinted? name text).or s.hints[name]? := by
      rw [Settings.withHint, hinted?, readHint_of_hints hhint]
      by_cases hn : hint.1 = name
      · simp [hn]
      · simp [Std.ExtTreeMap.getElem?_insert, hn]
    rw [List.foldl_cons, ih, preferred?, hput, preferred?, List.reverse_cons,
      List.findSome?_append, List.findSome?_singleton, Option.or_assoc]

theorem repositories_foldl_withHint (hints : List (String × String)) (s : Settings) :
    (hints.foldl (fun s hint => s.withHint hint.1 hint.2) s).repositories = s.repositories := by
  induction hints generalizing s with
  | nil => rfl
  | cons hint hints ih => exact ih _

variable {r : Request} {o : ClosureOptions} {disk : Disk}
  (hcommand : r.command = .perform (.closure o)) (hfile : r.fileSettings disk = .ok file)
include hcommand hfile

theorem settings_eq : r.settings disk =
    (Request.closureOverrides { development := r.development } o).map file.overlay := by
  rw [Request.settings, hfile, Request.overrides, hcommand]

theorem settings_of_readHints_error {fault : Invalidity} (h : readHints o.hints = .error fault) :
    r.settings disk = .error (.invalid fault) := by
  rw [settings_eq hcommand hfile, Request.closureOverrides, h]
  rfl

/-- What the settings in force know of modules. -/
theorem settings_of_hintsAll (h : HintsAll o.hints hints) : ∃ s, r.settings disk = .ok s ∧
    ∀ name, s.hints[name]? = preferred? file o.hints name ∧
      s.repositories[name]? = file.repositories[name]? := by
  have hsettings := settings_eq hcommand hfile
  rw [Request.closureOverrides, readHints_of_hintsAll h] at hsettings
  refine ⟨_, hsettings, fun name => ⟨?_, ?_⟩⟩
  · rw [Settings.overlay, Std.ExtTreeMap.getElem?_union, getElem?_foldl_withHint h]
    cases o.workdir <;> simp [preferred?, Settings.withWorkdir]
  · rw [Settings.overlay, Std.ExtTreeMap.getElem?_union, repositories_foldl_withHint]
    cases o.workdir <;> simp [Settings.withWorkdir]

end Settings

/-- With the settings in force, the fetch of a plain name goes where hints and settings say that the
module is. If a text is no hint there are no settings, and the first such text decides the
failure. -/
theorem settings_address {r : Request} {o : ClosureOptions} {disk : Disk}
    (hcommand : r.command = .perform (.closure o)) (hfile : r.fileSettings disk = .ok file) :
    ((∃ hints, readHints o.hints = .ok hints) ↔ ∀ text ∈ o.hints, IsHint text) ∧
    (∀ hints, readHints o.hints = .ok hints → ∃ s, r.settings disk = .ok s ∧
      ∀ temporary name found, Source.isPlain name = true →
        ((Source.Clones.ofSettings s temporary).GoesTo name found ↔
          Finds file o.hints name found)) ∧
    ∀ fault, (readHints o.hints = .error fault ↔ FirstNoHint o.hints fault) ∧
      (readHints o.hints = .error fault → r.settings disk = .error (.invalid fault)) := by
  refine ⟨?_, fun hints h => ?_, fun fault =>
    ⟨readHints_eq_error_iff, settings_of_readHints_error hcommand hfile⟩⟩
  · simp only [readHints_eq_ok_iff]
    exact exists_forall₂_iff
  · obtain ⟨s, hs, hknown⟩ := settings_of_hintsAll hcommand hfile (readHints_eq_ok_iff.mp h)
    refine ⟨s, hs, fun temporary name found hplain => ?_⟩
    obtain ⟨hhints, hrepositories⟩ := hknown name
    have hbook : (Source.Clones.ofSettings s temporary).book.get? name =
        file.repositories[name]?.or (AddressBook.official.get? name) := by
      rw [← hrepositories]
      exact AddressBook.get?_registerAll _ _ _
    rw [Source.Clones.goesTo_iff hplain, finds_iff hhints hbook]
    rfl

/-- A file with a repository and hints of its own. -/
def addressFile : String :=
  "\x7b\"repositories\": \x7b\"a\": \"fork\"\x7d, " ++
    "\"hints\": \x7b\"a\": \"file\", \"b\": \"file\"\x7d\x7d"

def addressDisk : Disk where
  root := .directory [("s.json", .ofText addressFile)]

def addressSettings : Settings where
  file := some "s.json"
  repositories := .ofEntries [("a", "fork")]
  hints := .ofEntries [("a", "file"), ("b", "file")]

/-- The last hint for `a` is empty. -/
def hintOptions : ClosureOptions where
  hints := ["a=x", " c = y=z ", "a= "]

def hintRequest : Request where
  settingsFile := "s.json"
  command := .perform (.closure hintOptions)

theorem settings_address_hidden :
    hintRequest.command = .perform (.closure hintOptions) ∧
    hintRequest.fileSettings addressDisk = .ok addressSettings ∧
    (∃ hints, readHints hintOptions.hints = .ok hints) ∧
    ∃ s, hintRequest.settings addressDisk = .ok s ∧
      (Source.Clones.ofSettings s ⟨true, ["", "tmp"]⟩).GoesTo "a" (.ok "fork") ∧
      (Source.Clones.ofSettings s ⟨true, ["", "tmp"]⟩).GoesTo "b" (.ok "file") ∧
      (Source.Clones.ofSettings s ⟨true, ["", "tmp"]⟩).GoesTo "c" (.ok "y=z") ∧
      (Source.Clones.ofSettings s ⟨true, ["", "tmp"]⟩).GoesTo "d" (.error (.noAddress "d")) := by
  have hfile : hintRequest.fileSettings addressDisk = .ok addressSettings := by decide +kernel
  have hread : readHints hintOptions.hints = .ok [("a", "x"), ("c", "y=z"), ("a", "")] := by
    decide +kernel
  obtain ⟨-, hok, -⟩ := settings_address rfl hfile
  obtain ⟨s, hs, hgoes⟩ := hok _ hread
  refine ⟨rfl, hfile, ⟨_, hread⟩, s, hs, ?_, ?_, ?_, ?_⟩
  · refine (hgoes _ _ _ (by decide)).mpr (.added (fun a ha => ?_) (by decide +kernel))
    have hempty : preferred? addressSettings hintOptions.hints "a" = some "" := by decide +kernel
    exact (Option.some.inj (hempty.symm.trans (prefers_iff.mp ha))).symm
  · exact (hgoes _ _ _ (by decide)).mpr
      (.preferred (prefers_iff.mpr (by decide +kernel)) (by decide))
  · exact (hgoes _ _ _ (by decide)).mpr
      (.preferred (prefers_iff.mpr (by decide +kernel)) (by decide))
  · refine (hgoes _ _ _ (by decide)).mpr (.nowhere (fun a ha => ?_) (by decide +kernel) ?_)
    · have hnone : preferred? addressSettings hintOptions.hints "d" = none := by decide +kernel
      cases hnone.symm.trans (prefers_iff.mp ha)
    · simp [AddressBook.officialAddresses]

end ModuleClosure.CommandLine
