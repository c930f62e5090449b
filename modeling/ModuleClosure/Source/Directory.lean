import ModuleClosure.Description.Reader
import ModuleClosure.Source

/-!
# Directories of descriptions

Below a root directory the description of a module stands in a file of the module's own directory,
or else in a file named after the module.
-/
namespace ModuleClosure.Source

/-- The name of a description file. -/
def fileName : String := "dune.module"

/-- Where the description of a module may stand, in the order of the search. -/
def candidates (root : Disk.Path) (name : String) : List Disk.Path :=
  [root.join [name, fileName], root.join [name ++ ".module"]]

/-- Reads the first of the files that is there. -/
def readFirst (disk : Disk) (name : String) :
    List Disk.Path → Except Failure Description × List Notice
  | [] => (.error (.noAddress name), [])
  | path :: paths =>
    match disk.exists? path with
    | .error fault => (.error (.files fault), [])
    | .ok true => (Description.ofFile disk path, [.fileRead name path.text])
    | .ok false => readFirst disk name paths

/-- The description of a module below a root directory. -/
def lookUp (disk : Disk) (root : Disk.Path) (name : String) :
    Except Failure Description × List Notice :=
  if isPlain name then readFirst disk name (candidates root name)
  else (.error (.noAddress name), [.nameRefused name])

/-- The source over a directory of a disk that does not change. -/
def directory (disk : Disk) (root : Disk.Path) : Source Unit where
  fetch name _ :=
    let (outcome, notices) := lookUp disk root name
    { outcome, notices, state := () }
  reach := disk.root.filePaths.length

end ModuleClosure.Source
