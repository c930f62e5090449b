import ModuleClosure.Disk
import ModuleClosure.Json
import ModuleClosure.Notice

/-!
# Reading parameter files

The lines are read in order under a base path. A header goes deeper below the sections that are
open, an empty one leaves them all, and an assignment that meets a value already there overrides
it with a notice.
-/
namespace ModuleClosure.Parameters
open Text

/-- What a reader knows between two lines. -/
structure Reading where
  sections : Path := []
  parameters : Parameters := {}
  notices : List Notice := []

def Reading.assign (r : Reading) (key value : String) : Reading :=
  { r with
    parameters := r.parameters.insert key value
    notices := r.notices ++ (match r.parameters.get? key with
      | some old => [.parameterOverridden key old]
      | none => []) }

/-- What a line does under a base path. -/
def Reading.apply (base : Path) (r : Reading) : Line → Reading
  | .skipped => r
  | .leave => { r with sections := [] }
  | .enter path => { r with sections := r.sections ++ path }
  | .assign path value => r.assign (Path.key (base ++ r.sections ++ path)) value

/-- Reads lines, of which the first has the given number, and gives the notices also when a line
is refused. -/
def readLines (base : Path) (number : Nat) (r : Reading) :
    List (List Char) → Except Failure Parameters × List Notice
  | [] => (.ok r.parameters, r.notices)
  | line :: rest =>
    match Line.ofText (trim line) with
    | .error fault => (.error (.parameterLine number fault), r.notices)
    | .ok l => readLines base (number + 1) (r.apply base l) rest

/-- Reads a file under a base path. -/
def readUnder (base text : String) : Except Failure Parameters × List Notice :=
  match pathOf base.toList with
  | .error fault => (.error (.parameterLine 0 fault), [])
  | .ok path => readLines path 1 {} (lines text.toList)

def read (text : String) : Except Failure Parameters × List Notice := readUnder "" text

/-- Reads a parameter file of a disk, under a base path. -/
def ofFileUnder (base : String) (disk : Disk) (path : Disk.Path) :
    Except Failure Parameters × List Notice :=
  match disk.readText path with
  | .error fault => (.error (.files fault), [])
  | .ok text => readUnder base text

/-- Reads the parameter with a key, if it is there. -/
def getAs (p : Parameters) (key : String) (kind : Kind) : Except Failure (Option Value) :=
  match p.get? key with
  | none => .ok none
  | some raw =>
    match kind.read raw with
    | .error fault => .error (.parameter (.unreadable key raw fault))
    | .ok value => .ok (some value)

/-- The parameters as an object, in ascending order of their keys. -/
def toJson (p : Parameters) : Json := .textObject p.toList

end ModuleClosure.Parameters
