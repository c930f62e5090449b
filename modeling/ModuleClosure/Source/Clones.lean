import ModuleClosure.AddressBook
import ModuleClosure.Description.Reader
import ModuleClosure.Settings
import ModuleClosure.Source.Directory
import ModuleClosure.Text.Lossy

/-!
# Shallow clones of repositories

A description is fetched by two runs of git in a transient directory: a clone without files, and a
checkout of the description file alone. The transient directory is removed after every outcome, and
a time limit counts from the first run.
-/
namespace ModuleClosure.Source
open Text

structure Clones where
  book : AddressBook := {}
  hints : NameMap String := ∅
  workdir : Disk.Path
  program : String := "git"
  limit : Option Duration := none

namespace Clones

/-- The clones that settings ask for. Their repositories are added to the official book, and
transient clones are made in a temporary directory if no other is set. -/
def ofSettings (s : Settings) (temporary : Disk.Path) : Clones where
  book := (AddressBook.official.registerAll s.repositories.toList).1
  hints := s.hints
  workdir := (s.fetch.workdir.map Disk.Path.ofText).getD temporary
  program := s.fetch.program
  limit := s.fetch.timeoutSeconds.map Duration.ofSeconds

/-- What fetching changes: the disk, and the requests that were given to git. -/
structure State where
  disk : Disk := {}
  requests : List Git.Request := []

/-- What came of requests: whether all succeeded, the transient tree they left, the requests whose
run was started, and notices. -/
structure Attempt where
  outcome : Except Failure Unit
  tree : FileTree
  requests : List Git.Request := []
  notices : List Notice := []

/-- The two requests for a module: a clone in the transient directory, a checkout in the clone. -/
def requestsFor (transient : String) (spot : List String) (address name : String) :
    List Git.Request :=
  [⟨transient, spot, [], ["clone", "-n", "--depth", "1", address, transient ++ "/" ++ name]⟩,
    ⟨transient, spot, [name], ["checkout", "HEAD", fileName]⟩]

/-- Whether a time since the start is past the limit. -/
def isLate (c : Clones) (milliseconds : Nat) : Bool :=
  c.limit.any fun limit => limit.nanoseconds ≤ (Duration.ofMilliseconds milliseconds).nanoseconds

/-- Gives requests in order until one does not succeed; `elapsed` milliseconds have passed. -/
def give (c : Clones) (programs : Git.Programs) (name : String) (tree : FileTree) (elapsed : Nat) :
    List Git.Request → Attempt
  | [] => { outcome := .ok (), tree }
  | r :: rs =>
    let begun : Notice := .gitRun name r.directory r.command
    match Git.start programs c.program r tree with
    | .error fault =>
      { outcome := .error (.fetch name (.notStarted c.program fault)), tree, notices := [begun] }
    | .ok (report, tree) =>
      let elapsed := elapsed + report.milliseconds
      if c.isLate elapsed then
        { outcome := .error (.timeout name (c.limit.getD ⟨0⟩)), tree, requests := [r],
          notices := [begun] }
      else if report.ending.succeeded then
        let rest := c.give programs name tree elapsed rs
        { rest with requests := r :: rest.requests, notices := begun :: rest.notices }
      else
        let errors := String.ofList (trim (decodeLossy report.errors))
        { outcome := .error (.fetch name (.ended r.command report.ending errors)), tree,
          requests := [r], notices := [begun] }

/-- The description file of a clone. -/
def readClone (tree : FileTree) (name : String) : Except Failure Description :=
  match tree.find? [name, fileName] with
  | none => .error (.files .missing)
  | some file =>
    match file.text with
    | .error fault => .error (.files fault)
    | .ok text => Description.read text

/-- What is reported of a description that was read. -/
def readNotices (name : String) (d : Description) : List Notice :=
  (if d.name = name then [] else [.otherNameDeclared name d.name]) ++ [.cloneRemoved name]

/-- The outcome and the notices of an attempt, its clone read if there is one. -/
def Attempt.finish (a : Attempt) (name : String) : Except Failure Description × List Notice :=
  match a.outcome with
  | .error failure => (.error failure, a.notices)
  | .ok () =>
    match readClone a.tree name with
    | .error failure => (.error failure, a.notices)
    | .ok d => (.ok d, a.notices ++ readNotices name d)

/-- A name for a transient directory that is not taken. -/
def transientName (taken : List String) : String :=
  if "gdmf-*" ∈ taken then
    "gdmf-" ++ String.ofList (List.replicate (taken.foldl (fun n name => n + name.length) 1) '*')
  else "gdmf-*"

/-- Fetches from an address with a transient directory below the entry names `spot` of the disk,
which are the work directory. -/
def fetchFrom (c : Clones) (programs : Git.Programs) (name address : String) (disk : Disk)
    (spot : List String) (requests : List Git.Request) : Reply State :=
  let entry := transientName (((disk.root.find? spot).map FileTree.entryNames).getD [])
  let transient := (c.workdir.join [entry]).text
  let place := spot ++ [entry]
  let root := disk.root.put .empty place
  let attempt := c.give programs name .empty 0 (requestsFor transient place address name)
  let (outcome, notices) := attempt.finish name
  let root := (root.put attempt.tree place).remove place
  { outcome
    notices := .fetchBegun name address :: notices
    state := ⟨{ disk with root }, requests ++ attempt.requests⟩ }

def fetch (c : Clones) (programs : Git.Programs) (name : String) (s : State) : Reply State :=
  if isPlain name then
    match c.book.resolve c.hints name with
    | .error failure => { outcome := .error failure, state := s }
    | .ok address =>
      let (disk, made) := s.disk.makeDirectories c.workdir
      match made.bind fun () => disk.spotOf c.workdir with
      | .error fault =>
        { outcome := .error (.files fault), notices := [.fetchBegun name address]
          state := { s with disk } }
      | .ok spot => c.fetchFrom programs name address disk spot s.requests
  else { outcome := .error (.noAddress name), notices := [.nameRefused name], state := s }

end Clones

/-- The source over clones; `reach` bounds the names that the repositories declare. -/
def clones (c : Clones) (programs : Git.Programs) (reach : Nat) : Source Clones.State where
  fetch := c.fetch programs
  reach := reach

end ModuleClosure.Source
