import ModuleClosure.Failure
import ModuleClosure.Logging.Plan

/-!
# Starting to log

Logging starts at most once. The filter is checked first, and then the log file is made.
-/
namespace ModuleClosure.Logging
open Text

structure Session where
  started : Bool := false
  disk : Disk := {}
  /-- The filter that the environment gives; it takes the place of the plan's level if it can. -/
  environment : Option String := none
  dates : Dates

/-- Why logging does not start. Where the log file cannot be made, or a directive would be cut
inside a character, the program ends. -/
inductive Refusal
  | fault (fault : StartFault)
  | abort
deriving DecidableEq, Repr

/-- The refusal for a text with a misread directive. -/
def Refusal.ofMisreading (fault : DirectiveFault → StartFault) : Misreading → Refusal
  | .fault f => .fault (fault f)
  | .torn => .abort

/-- The directives of a plan, trimmed, without empty ones. -/
def Plan.pieces (plan : Plan) : List (List Char) :=
  match plan.directives with
  | none => []
  | some text => ((fields ',' text.toList).map trim).filter (· ≠ [])

def checkPieces : List (List Char) → Except Refusal Unit
  | [] => .ok ()
  | piece :: pieces =>
    match Directive.read piece with
    | .error m => .error (.ofMisreading (.directive (String.ofList piece)) m)
    | .ok _ => checkPieces pieces

def checkLevel (level : String) : Except Refusal Unit :=
  match Directive.readAll level.toList with
  | .error m => .error (.ofMisreading (.level level) m)
  | .ok _ => .ok ()

/-- Checks the filter of the environment, or the level where that is no filter, and then the
directives of a plan. -/
def checkFilter (environment : Option String) (plan : Plan) : Except Refusal Unit := do
  match environment.map fun text => Directive.readAll text.toList with
  | some (.ok _) => pure ()
  | some (.error .torn) => throw .abort
  | _ => checkLevel plan.level
  checkPieces plan.pieces

/-- The log file of a plan. -/
def Plan.file? (plan : Plan) (dates : Dates) : Option Disk.Path :=
  plan.directory.map fun directory =>
    (Disk.Path.ofText directory).joinText (plan.rotation.fileName plan.fileName dates)

/-- Makes a log file, and the directories that lead to it if it cannot be made at once. -/
def makeFile (disk : Disk) (path : Disk.Path) : Except FileFault Disk :=
  match disk.touch path with
  | .ok disk => .ok disk
  | .error _ =>
    match disk.makeDirectories path.parent with
    | (_, .error fault) => .error fault
    | (disk, .ok ()) => disk.touch path

/-- Starts to log by a plan. -/
def Session.start (s : Session) (plan : Plan) : Except Refusal Session :=
  if s.started then .error (.fault .alreadyStarted)
  else
    match checkFilter s.environment plan with
    | .error refusal => .error refusal
    | .ok () =>
      match plan.file? s.dates with
      | none => .ok { s with started := true }
      | some path =>
        match makeFile s.disk path with
        | .error _ => .error .abort
        | .ok disk => .ok { s with started := true, disk }

/-- Starts to log if that is possible. -/
def Session.tryStart (s : Session) (plan : Plan) : Session :=
  match s.start plan with
  | .ok s => s
  | .error _ => s

end ModuleClosure.Logging
