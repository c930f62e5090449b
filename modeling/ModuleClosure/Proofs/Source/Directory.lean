import ModuleClosure.Proofs.Closure.Depth
import ModuleClosure.Source.Directory

/-!
# What a directory declares

Every description that a directory answers with is read from a file of the disk. So the names that
it declares are finitely many, however files refer to one another.
-/
namespace ModuleClosure

namespace FileTree

variable {t : FileTree} {content : ByteArray}

theorem mem_filePathsOf {es : List (String × FileTree)} {name : String} {path : List String}
    (h : es.lookup name = some t) (hp : path ∈ t.filePaths) : name :: path ∈ filePathsOf es := by
  induction es with
  | nil => cases h
  | cons e es ih =>
    rw [filePathsOf, List.mem_append]
    rw [List.lookup_cons] at h
    split at h
    · cases h
      have hname : name = e.1 := by simpa using ‹(name == e.1) = true›
      exact .inl (List.mem_map.mpr ⟨path, hp, by rw [hname]⟩)
    · exact .inr (ih h)

/-- What is found as a file is listed. -/
theorem mem_filePaths {path : List String} (h : t.find? path = some (.file content)) :
    path ∈ t.filePaths := by
  induction path generalizing t with
  | nil =>
    cases h
    exact List.mem_singleton.mpr rfl
  | cons name path ih =>
    obtain ⟨sub, hsub, hfind⟩ := Option.bind_eq_some_iff.mp h
    cases t with
    | file _ => cases hsub
    | directory es => exact mem_filePathsOf hsub (ih hfind)

/-- The name that the description in a file declares. -/
def declaredAt? (t : FileTree) (path : List String) : Option String := do
  let sub ← t.find? path
  let text ← sub.text.toOption
  let d ← (Description.read text).toOption
  return d.name

end FileTree

namespace Source
open Closure

/-- The names that the description files of a disk declare. -/
def declaredNames (disk : Disk) : List String := disk.root.filePaths.filterMap disk.root.declaredAt?

variable {disk : Disk} {root : Disk.Path} {name : String} {m d : Description}
  {p p' : Progress Unit}

theorem mem_declaredNames_of_ofFile {path : Disk.Path} (h : Description.ofFile disk path = .ok d) :
    d.name ∈ declaredNames disk := by
  unfold Description.ofFile Disk.readText Disk.find at h
  cases hspot : disk.resolve path with
  | error fault => simp [hspot, Except.bind] at h
  | ok spot =>
    cases hfind : disk.root.find? spot with
    | none => simp [hspot, hfind, Except.bind] at h
    | some t =>
      cases htext : t.text with
      | error fault => simp [hspot, hfind, htext, Except.bind] at h
      | ok text =>
        have hread : Description.read text = .ok d := by
          simpa [hspot, hfind, htext, Except.bind] using h
        have hdeclared : disk.root.declaredAt? spot = some d.name := by
          simp [FileTree.declaredAt?, hfind, htext, hread, Except.toOption]
        refine List.mem_filterMap.mpr ⟨spot, ?_, hdeclared⟩
        cases t with
        | file content => exact FileTree.mem_filePaths hfind
        | directory es => cases htext

theorem mem_declaredNames_of_readFirst {paths : List Disk.Path}
    (h : (readFirst disk name paths).1 = .ok d) : d.name ∈ declaredNames disk := by
  induction paths with
  | nil => cases h
  | cons path paths ih =>
    rw [readFirst] at h
    split at h
    · cases h
    · exact mem_declaredNames_of_ofFile h
    · exact ih h

theorem declares_directory (disk : Disk) (root : Disk.Path) :
    Declares (directory disk root) (declaredNames disk) := by
  intro name s d h
  change (lookUp disk root name).1 = .ok d at h
  rw [lookUp] at h
  split at h
  · exact mem_declaredNames_of_readFirst h
  · cases h

/-- A directory allows depth enough for its files. -/
theorem resolve_directory_ne_tooDeep {o} (hp : p.memo.pending = [])
    (h : resolve (directory disk root) m p = (o, p')) : o ≠ .error .tooDeep :=
  resolve_ne_tooDeep (declares_directory disk root) (List.length_filterMap_le _ _) hp h

end Source
end ModuleClosure
