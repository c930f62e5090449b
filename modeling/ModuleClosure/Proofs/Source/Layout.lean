import ModuleClosure.Proofs.Description.File
import ModuleClosure.Proofs.Disk
import ModuleClosure.Source.Directory

/-!
# Where a description is found

The description of a module is the file in the module's own directory, or else the file beside it
that is named after the module, or else there is none. This is so for whatever stands below the
root but for one thing: a file in the place of the module's own directory.
-/
namespace ModuleClosure

theorem FileTree.text_ne_notDirectory (t : FileTree) : t.text ≠ .error .notDirectory := by
  cases t with
  | directory es => simp [text]
  | file content =>
    rw [text]
    cases String.fromUTF8? content <;> simp

/-- Something stands at a path. -/
def Disk.Stands (d : Disk) (p : Disk.Path) : Prop := ∃ t, d.find p = .ok t

/-- A description is not read from below a file. -/
theorem Description.ofFile_ne_notDirectory {disk : Disk} {path : Disk.Path}
    (h : disk.Stands path) : ofFile disk path ≠ .error (.files .notDirectory) := by
  obtain ⟨t, hfind⟩ := h
  have hread : disk.readText path = t.text := by rw [Disk.readText, hfind]; rfl
  rw [ofFile, hread]
  cases htext : t.text with
  | error fault =>
    intro heq
    exact t.text_ne_notDirectory (by simpa [htext] using heq)
  | ok text =>
    intro heq
    cases read_eq_error_iff.mp heq

namespace Source
open Disk

variable {disk : Disk} {root path : Disk.Path} {paths : List Disk.Path} {name : String}
  {es : List (String × FileTree)} {t : FileTree} {outcome : Except Failure Description}

/-- A plain name is one ordinary component of a path. -/
theorem isOrdinary_of_isPlain (h : isPlain name = true) : IsOrdinary name := by
  simp only [isPlain, Bool.and_eq_true, Bool.not_eq_true', List.isEmpty_eq_false_iff,
    List.any_eq_false, bne_iff_ne] at h
  obtain ⟨⟨⟨hempty, hdots⟩, hseparator⟩, hdot⟩ := h
  constructor
  · rintro rfl
    exact hempty rfl
  · rintro rfl
    exact hdot rfl
  · rintro rfl
    exact absurd hdots (by decide)
  · intro hslash
    exact hseparator '/' hslash rfl

theorem isOrdinary_fileName : IsOrdinary fileName := by
  constructor <;> decide

theorem isOrdinary_moduleFile (h : IsOrdinary name) : IsOrdinary (name ++ ".module") := by
  have hlist : (name ++ ".module").toList = name.toList ++ ".module".toList :=
    String.toList_append
  -- The ending alone is longer than each of the names that are no ordinary ones.
  have hne (other : String) (hother : other.toList.length ≤ 2) : name ++ ".module" ≠ other := by
    rintro rfl
    rw [hlist, List.length_append] at hother
    have hending : ".module".toList.length = 7 := by decide
    omega
  refine ⟨hne "" (by decide), hne "." (by decide), hne ".." (by decide), ?_⟩
  rw [hlist, List.mem_append, not_or]
  exact ⟨h.no_slash, by decide⟩

/-- Where the description of a module is: in the module's own directory, or else beside it, or else
nowhere. -/
inductive FoundIn (disk : Disk) (root : Disk.Path) (name : String) :
    Except Failure Description → Prop
  | nested (h : disk.Stands (root.join [name, fileName])) :
      FoundIn disk root name (Description.ofFile disk (root.join [name, fileName]))
  | flat (hnested : ¬ disk.Stands (root.join [name, fileName]))
      (h : disk.Stands (root.join [name ++ ".module"])) :
      FoundIn disk root name (Description.ofFile disk (root.join [name ++ ".module"]))
  | nowhere (hnested : ¬ disk.Stands (root.join [name, fileName]))
      (hflat : ¬ disk.Stands (root.join [name ++ ".module"])) :
      FoundIn disk root name (.error (.noAddress name))

theorem FoundIn.ne_notDirectory (h : FoundIn disk root name outcome) :
    outcome ≠ .error (.files .notDirectory) := by
  cases h with
  | nested h => exact Description.ofFile_ne_notDirectory h
  | flat _ h => exact Description.ofFile_ne_notDirectory h
  | nowhere => simp

theorem readFirst_of_ok (h : disk.find path = .ok t) :
    (readFirst disk name (path :: paths)).1 = Description.ofFile disk path := by
  rw [readFirst, exists?, h]

theorem readFirst_of_missing (h : disk.find path = .error .missing) :
    readFirst disk name (path :: paths) = readFirst disk name paths := by
  rw [readFirst, exists?, h]

theorem readFirst_of_notDirectory (h : disk.find path = .error .notDirectory) :
    (readFirst disk name (path :: paths)).1 = .error (.files .notDirectory) := by
  rw [readFirst, exists?, h]

section Layouts

variable (hroot : disk.HoldsDirectory root es) (hplain : isPlain name = true)
  (htaken : ∀ path ∈ candidates root name, IsTaken path)
include hroot hplain htaken

theorem find_nested : disk.find (root.join [name, fileName]) =
    (FileTree.directory es).reach [name, fileName] := by
  refine find_join hroot (by simp) ?_ (htaken _ (by simp [candidates]))
  simpa using ⟨isOrdinary_of_isPlain hplain, isOrdinary_fileName⟩

theorem find_flat : disk.find (root.join [name ++ ".module"]) =
    (FileTree.directory es).reach [name ++ ".module"] := by
  refine find_join hroot (by simp) ?_ (htaken _ (by simp [candidates]))
  simpa using isOrdinary_moduleFile (isOrdinary_of_isPlain hplain)

/-- Nothing but a file in the place of the module's own directory is in the way. -/
theorem find_nested_eq_notDirectory_iff :
    disk.find (root.join [name, fileName]) = .error .notDirectory ↔
      ∃ content, es.lookup name = some (.file content) := by
  rw [find_nested hroot hplain htaken, FileTree.reach]
  cases es.lookup name with
  | none => simp
  | some t =>
    cases t with
    | file content => simp [FileTree.reach]
    | directory inner => cases hinner : inner.lookup fileName <;> simp [FileTree.reach, hinner]

theorem find_flat_of_error {fault : FileFault}
    (h : disk.find (root.join [name ++ ".module"]) = .error fault) : fault = .missing := by
  rw [find_flat hroot hplain htaken, FileTree.reach] at h
  cases hentry : es.lookup (name ++ ".module") with
  | none => simpa [hentry] using h.symm
  | some t => simp [hentry, FileTree.reach] at h

section Clear

variable (hclear : ∀ content, es.lookup name ≠ some (.file content))
include hclear

theorem find_nested_of_error {fault : FileFault}
    (h : disk.find (root.join [name, fileName]) = .error fault) : fault = .missing := by
  have hreach := h
  rw [find_nested hroot hplain htaken] at hreach
  refine (FileTree.fault_of_reach hreach).resolve_right ?_
  rintro rfl
  obtain ⟨content, hfile⟩ := (find_nested_eq_notDirectory_iff hroot hplain htaken).mp h
  exact hclear content hfile

theorem foundIn_lookUp : FoundIn disk root name (lookUp disk root name).1 := by
  rw [lookUp, if_pos hplain, candidates]
  cases hnested : disk.find (root.join [name, fileName]) with
  | ok t =>
    rw [readFirst_of_ok hnested]
    exact .nested ⟨t, hnested⟩
  | error fault =>
    obtain rfl := find_nested_of_error hroot hplain htaken hclear hnested
    have hnone : ¬ disk.Stands (root.join [name, fileName]) := by simp [Stands, hnested]
    rw [readFirst_of_missing hnested]
    cases hflat : disk.find (root.join [name ++ ".module"]) with
    | ok t =>
      rw [readFirst_of_ok hflat]
      exact .flat hnone ⟨t, hflat⟩
    | error fault =>
      obtain rfl := find_flat_of_error hroot hplain htaken hflat
      rw [readFirst_of_missing hflat, readFirst]
      exact .nowhere hnone (by simp [Stands, hflat])

end Clear

theorem lookUp_of_file {content : ByteArray} (h : es.lookup name = some (.file content)) :
    (lookUp disk root name).1 = .error (.files .notDirectory) := by
  rw [lookUp, if_pos hplain, candidates]
  exact readFirst_of_notDirectory
    ((find_nested_eq_notDirectory_iff hroot hplain htaken).mpr ⟨content, h⟩)

end Layouts

/-- Below a directory, the description of a module is found in its own directory or else beside it,
unless the entry of its name is a file. Then the search ends there, with the fault that a file is
no directory. -/
theorem lookUp_layouts (hroot : disk.HoldsDirectory root es) (hplain : isPlain name = true)
    (htaken : ∀ path ∈ candidates root name, IsTaken path) :
    (FoundIn disk root name (lookUp disk root name).1 ↔
      ∀ content, es.lookup name ≠ some (.file content)) ∧
    ∀ content, es.lookup name = some (.file content) →
      (lookUp disk root name).1 = .error (.files .notDirectory) := by
  refine ⟨⟨fun hfound content hfile => ?_, foundIn_lookUp hroot hplain htaken⟩,
    fun content hfile => lookUp_of_file hroot hplain htaken hfile⟩
  exact hfound.ne_notDirectory (lookUp_of_file hroot hplain htaken hfile)

/-- A directory that holds something else, and a description beside it. -/
def besideEntries : List (String × FileTree) :=
  [("a", .directory [("b", .ofText "x")]), ("a.module", .ofText "Module: a")]

def besideDisk : Disk where
  root := .directory [("r", .directory besideEntries)]

def besideRoot : Disk.Path := ⟨true, ["", "r"]⟩

theorem lookUp_layouts_beside :
    besideDisk.HoldsDirectory besideRoot besideEntries ∧ isPlain "a" = true ∧
    (∀ path ∈ candidates besideRoot "a", IsTaken path) ∧
    (∀ content, besideEntries.lookup "a" ≠ some (.file content)) ∧
    FoundIn besideDisk besideRoot "a" (lookUp besideDisk besideRoot "a").1 := by
  have hroot : besideDisk.HoldsDirectory besideRoot besideEntries := ⟨["r"], rfl, rfl⟩
  have hplain : isPlain "a" = true := by decide
  have htaken : ∀ path ∈ candidates besideRoot "a", IsTaken path := by decide
  have hclear : ∀ content, besideEntries.lookup "a" ≠ some (.file content) := by
    simp [besideEntries]
  exact ⟨hroot, hplain, htaken, hclear, (lookUp_layouts hroot hplain htaken).1.mpr hclear⟩

/-- A file that has the name of a module, and the description of that module beside it. -/
def hiddenEntries : List (String × FileTree) :=
  [("a", .ofText "x"), ("a.module", .ofText "Module: a")]

def hiddenDisk : Disk where
  root := .directory [("r", .directory hiddenEntries)]

/-- The file hides the description, although nothing stands in the way of reading it. -/
theorem exists_hidden_description :
    hiddenDisk.HoldsDirectory besideRoot hiddenEntries ∧ isPlain "a" = true ∧
    (∀ path ∈ candidates besideRoot "a", IsTaken path) ∧
    hiddenDisk.Stands (besideRoot.join ["a.module"]) ∧
    ¬ FoundIn hiddenDisk besideRoot "a" (lookUp hiddenDisk besideRoot "a").1 := by
  have hroot : hiddenDisk.HoldsDirectory besideRoot hiddenEntries := ⟨["r"], rfl, rfl⟩
  have hplain : isPlain "a" = true := by decide
  have htaken : ∀ path ∈ candidates besideRoot "a", IsTaken path := by decide
  refine ⟨hroot, hplain, htaken, ⟨.ofText "Module: a", rfl⟩, fun hfound => ?_⟩
  exact hfound.ne_notDirectory (lookUp_of_file hroot hplain htaken rfl)

end Source
end ModuleClosure
