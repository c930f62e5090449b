import ModuleClosure.Git
import ModuleClosure.Text.Blank

/-!
# A git program over remotes that are given

The program knows repositories by address. A clone makes a directory that remembers its address; a
checkout in it writes the description file the repository has.
-/
namespace ModuleClosure.Git
open Text

/-- A repository: its description file, and what a clone and a checkout report. -/
structure Remote where
  module : Option FileTree := none
  clone : Report := {}
  checkout : Option Report := none

/-- The file of a clone that holds its address. -/
def originName : String := ".git"

/-- The names from the transient directory to a path below it. -/
def namesBelow? (transient path : String) : Option (List String) :=
  (after? (transient.toList ++ ['/']) path.toList).map fun r =>
    (fields '/' r).map String.ofList

def unknownRemote (address : String) : Report :=
  { ending := .exited 128
    errors := ("fatal: repository '" ++ address ++ "' not found\n").toUTF8.data.toList }

def unknownFile : Report :=
  { ending := .exited 1
    errors := ("error: pathspec 'dune.module' did not match any file(s) known to git\n"
      ).toUTF8.data.toList }

def runClone (remotes : List (String × Remote)) (r : Request) (t : FileTree) : Report × FileTree :=
  match r.arguments.reverse with
  | target :: address :: _ =>
    match remotes.lookup address with
    | none => (unknownRemote address, t)
    | some remote =>
      match namesBelow? r.transient target with
      | none => (remote.clone, t)
      | some names =>
        (remote.clone, t.put (.directory [(originName, .ofText address)]) names)
  | _ => ({}, t)

/-- The repository that the directory of a request is a clone of. -/
def originOf? (remotes : List (String × Remote)) (r : Request) (t : FileTree) : Option Remote :=
  match (t.find? (r.within ++ [originName])).map FileTree.text with
  | some (.ok address) => remotes.lookup address
  | _ => none

def runCheckout (remotes : List (String × Remote)) (r : Request) (t : FileTree) :
    Report × FileTree :=
  match originOf? remotes r t with
  | none => (unknownFile, t)
  | some remote =>
    match remote.module, remote.checkout with
    | none, none => (unknownFile, t)
    | none, some report => (report, t)
    | some file, report => (report.getD {}, t.put file (r.within ++ ["dune.module"]))

/-- The program over remotes. -/
def ofRemotes (remotes : List (String × Remote)) : Program := fun r t =>
  .ok (if r.command = "clone" then runClone remotes r t else runCheckout remotes r t)

end ModuleClosure.Git
