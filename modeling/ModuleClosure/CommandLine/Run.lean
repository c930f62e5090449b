import ModuleClosure.CommandLine.Hint
import ModuleClosure.CommandLine.Report
import ModuleClosure.Logging.Session
import ModuleClosure.Parameters.Reader
import ModuleClosure.Settings.Reader
import ModuleClosure.Source.Directory

/-!
# Running a command line

A command line runs on a host. It ends with a status, lines for the output and for errors, and a
disk that may have changed.
-/
namespace ModuleClosure.CommandLine

/-- What a command line finds where it runs. -/
structure Host where
  disk : Disk
  /-- The directory for transient files. -/
  temporary : String
  programs : Git.Programs
  /-- How many different names the repositories declare at most. -/
  reach : Nat := 0
  /-- The log filter of the environment. -/
  filter : Option String := none
  dates : Logging.Dates
  time : String
  architecture : String
  system : String

structure Outcome where
  status : Nat := 0
  output : List String := []
  errors : List String := []
  disk : Disk
  /-- The paths that decide about the run: another disk with the same there gives the same. -/
  consulted : List Disk.Path := []

namespace Outcome

def failed (f : Failure) (disk : Disk) : Outcome :=
  { status := 1, errors := [failureLine f], disk }

/-- The outcome of a part of a run that shows lines if it succeeds. -/
def ofResult (r : Except Failure (List String)) (disk : Disk) : Outcome :=
  match r with
  | .ok output => { output, disk }
  | .error f => failed f disk

def consulting (o : Outcome) (paths : List Disk.Path) : Outcome :=
  { o with consulted := paths ++ o.consulted }

end Outcome

/-! ## Settings in force -/

namespace Request

/-- The settings of the file, if there is one. -/
def fileSettings (r : Request) (disk : Disk) : Except Failure Settings :=
  match disk.find (.ofText r.settingsFile) with
  | .error _ => .ok {}
  | .ok _ => Settings.ofFile disk r.settingsFile

/-- What the options of a closure set. -/
def closureOverrides (s : Settings) (o : ClosureOptions) : Except Failure Settings :=
  match readHints o.hints with
  | .error fault => .error (.invalid fault)
  | .ok hints =>
    let s := match o.workdir with
      | none => s
      | some directory => s.withWorkdir directory
    .ok (hints.foldl (fun s hint => s.withHint hint.1 hint.2) s)

/-- What the options set. -/
def overrides (r : Request) : Except Failure Settings :=
  let s : Settings := { development := r.development }
  match r.command with
  | .perform (.closure o) => closureOverrides s o
  | _ => .ok s

/-- The settings in force: those of the options over those of the file. -/
def settings (r : Request) (disk : Disk) : Except Failure Settings :=
  match r.fileSettings disk with
  | .error f => .error f
  | .ok file => r.overrides.map file.overlay

/-- The log plan. A level among the options counts even if it is the default one. -/
def plan (r : Request) (s : Settings) : Logging.Plan :=
  let plan := Logging.Plan.ofSettings s.logging
  { plan with level := r.level.getD plan.level, showLine := s.development }

end Request

/-! ## Commands -/

/-- Shows the closure of a description over a source that starts in a state. -/
def closeOver {σ : Type} (source : Source σ) (start : σ) (m : Description)
    (lines : ClosureReport → List String) : Except Failure (List String) × Progress σ :=
  let (outcome, p) := Closure.resolve source m { state := start }
  match outcome with
  | .ok d => (.ok (lines (.of d p.memo)), p)
  | .error stop => (.error stop.failure, p)

def runClosure (h : Host) (s : Settings) (o : ClosureOptions) (disk : Disk) : Outcome :=
  let lines (r : ClosureReport) : List String :=
    if o.json then [(closureJson r h.time).pretty] else closureLines r
  let outcome : Outcome := match Description.ofFile disk (.ofText o.file) with
    | .error f => .failed f disk
    | .ok m =>
      match o.directory with
      | some root =>
        let (shown, p) := closeOver (Source.directory disk (.ofText root)) () m lines
        let asked := p.memo.requested.filter Source.isPlain
        (Outcome.ofResult shown disk).consulting
          (asked.flatMap (Source.candidates (.ofText root)))
      | none =>
        let c := Source.Clones.ofSettings s (.ofText h.temporary)
        let (shown, p) := closeOver (Source.clones c h.programs h.reach) { disk } m lines
        (Outcome.ofResult shown p.state.disk).consulting [c.workdir]
  outcome.consulting [.ofText o.file]

def runDescribe (file : String) (json : Bool) (disk : Disk) : Outcome :=
  let shown := (Description.ofFile disk (.ofText file)).map fun d =>
    if json then [d.toJson.pretty] else descriptionLines d
  (Outcome.ofResult shown disk).consulting [.ofText file]

def runParameters (file base : String) (disk : Disk) : Outcome :=
  let shown := (Parameters.ofFileUnder base disk (.ofText file)).1.map fun p => [p.toJson.pretty]
  (Outcome.ofResult shown disk).consulting [.ofText file]

def Task.run (h : Host) (s : Settings) (disk : Disk) : Task → Outcome
  | closure o => runClosure h s o disk
  | describe file json => runDescribe file json disk
  | parameters file base => runParameters file base disk
  | repositories => { output := bookLines s, disk }

/-- Says whether a settings file is valid, and what it sets. -/
def runCheckSettings (h : Host) (file : String) : Outcome :=
  let opening := ["检查配置文件: " ++ file, ""]
  let outcome : Outcome := match h.disk.find (.ofText file) with
    | .error _ =>
      { output := opening ++ ["⚠️  警告: 配置文件不存在，将使用默认配置", ""] ++
          settingsLines h.temporary {}
        disk := h.disk }
    | .ok _ =>
      match Settings.ofFile h.disk file with
      | .ok s =>
        { output := opening ++ ["✅ 配置文件有效！", ""] ++ settingsLines h.temporary s
          disk := h.disk }
      | .error f =>
        { Outcome.failed f h.disk with
          output := opening ++ ["❌ 配置文件无效: " ++ f.message] }
  outcome.consulting [.ofText file]

/-- Starts to log and then does the task. -/
def runTask (h : Host) (r : Request) (s : Settings) (task : Task) : Outcome :=
  let session : Logging.Session := { disk := h.disk, environment := h.filter, dates := h.dates }
  let plan := r.plan s
  let outcome : Outcome := match session.start plan with
    | .error (.fault fault) => .failed (.start fault) h.disk
    | .error .abort => { status := 101, disk := h.disk }
    | .ok session => task.run h s session.disk
  outcome.consulting (plan.file? h.dates).toList

def Request.run (h : Host) (r : Request) : Outcome :=
  match r.command with
  | .version => { output := versionLines h.architecture h.system, disk := h.disk }
  | .checkSettings => runCheckSettings h r.settingsFile
  | .perform task =>
    let outcome : Outcome := match r.settings h.disk with
      | .error f => .failed f h.disk
      | .ok s => runTask h r s task
    outcome.consulting [.ofText r.settingsFile]

/-- Runs a command line. -/
def run (h : Host) (arguments : List String) : Outcome :=
  match Request.ofArguments arguments with
  | .ok r => r.run h
  | .error (.version title) => { output := [title ++ " " ++ versionNumber], disk := h.disk }
  | .error .help => { output := usageLines, disk := h.disk }
  | .error .misuse => { status := 2, errors := usageLines, disk := h.disk }

end ModuleClosure.CommandLine
