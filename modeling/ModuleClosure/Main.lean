import Std.Time.DateTime
import Std.Time.Format
import ModuleClosure.CommandLine.Snapshot

/-!
# The program

Reads what a run consults from the disk, runs, and writes what the run has added. It starts no
other program, so that every git program counts as missing.
-/
namespace ModuleClosure.CommandLine

/-- What stands at a path; a directory is shown without its entries. -/
def look (path : String) : IO (Option FileTree) := do
  try
    return some (.file (← IO.FS.readBinFile path))
  catch
    | .inappropriateType _ 21 _ => return some .empty
    | _ => return none

def lookUp (disk : Disk) (path : Disk.Path) : IO Disk := do
  match ← look path.text with
  | some found => return disk.learn path found
  | none => return disk

/-- Runs again and again until the disk is known at all paths that the run consults. -/
partial def runKnowing (host : Host) (arguments : List String) (known : List Disk.Path) :
    IO (Disk × Outcome) := do
  let outcome := run host arguments
  match outcome.consulted.filter fun path => path ∉ known with
  | [] => return (host.disk, outcome)
  | paths =>
    let disk ← (paths.flatMap Disk.Path.leading).foldlM lookUp host.disk
    runKnowing { host with disk } arguments (known ++ paths)

def write (addition : List String × Option ByteArray) : IO Unit := do
  let path := "/" ++ "/".intercalate addition.1
  match addition.2 with
  | none => IO.FS.createDirAll path
  | some content => IO.FS.writeBinFile path content

def currentHost : IO Host := do
  let now := Std.Time.DateTime.ofTimestampWithZone (← Std.Time.Timestamp.now) .UTC
  let here := (Disk.Path.ofText (← IO.currentDir).toString).parts.filter (· ≠ "")
  let text (path : String) : IO String := do
    return match ← look path with
      | some (.file content) => ((String.fromUTF8? content).getD "unknown").trimAscii.toString
      | _ => "unknown"
  return {
    disk := ⟨FileTree.empty.put .empty here, here⟩
    temporary := (← IO.getEnv "TMPDIR").getD "/tmp"
    programs := fun _ => .missing
    filter := ← IO.getEnv "RUST_LOG"
    dates := ⟨now.format "uuuu-MM-dd", now.format "uuuu-MM-dd-HH"⟩
    time := now.format "uuuu-MM-dd" ++ "T" ++ now.format "HH:mm:ss" ++ "Z"
    architecture := ← text "/proc/sys/kernel/arch"
    system := (← text "/proc/sys/kernel/ostype").toLower }

end ModuleClosure.CommandLine

open ModuleClosure ModuleClosure.CommandLine

def main (arguments : List String) : IO UInt32 := do
  let (before, outcome) ← runKnowing (← currentHost) arguments []
  (outcome.disk.root.additions before.root).forM write
  outcome.output.forM IO.println
  outcome.errors.forM IO.eprintln
  return outcome.status.toUInt32
