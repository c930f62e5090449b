import ModuleClosure.FileTree

/-!
# Runs of a git program

A git program is asked to do something in a directory. It reports how it ended, what it wrote as
errors and how long it took, and it leaves files behind.
-/
namespace ModuleClosure.Git

inductive Ending
  | exited (status : Nat)
  | killed (signal : Nat)
deriving DecidableEq, Repr

def Ending.succeeded : Ending → Bool
  | exited status => status == 0
  | killed _ => false

def signalNames : List (Nat × String) :=
  [(1, "SIGHUP"), (2, "SIGINT"), (3, "SIGQUIT"), (4, "SIGILL"), (5, "SIGTRAP"), (6, "SIGABRT"),
    (7, "SIGBUS"), (8, "SIGFPE"), (9, "SIGKILL"), (10, "SIGUSR1"), (11, "SIGSEGV"),
    (12, "SIGUSR2"), (13, "SIGPIPE"), (14, "SIGALRM"), (15, "SIGTERM"), (16, "SIGSTKFLT"),
    (17, "SIGCHLD"), (18, "SIGCONT"), (19, "SIGSTOP"), (20, "SIGTSTP"), (21, "SIGTTIN"),
    (22, "SIGTTOU"), (23, "SIGURG"), (24, "SIGXCPU"), (25, "SIGXFSZ"), (26, "SIGVTALRM"),
    (27, "SIGPROF"), (28, "SIGWINCH"), (29, "SIGIO"), (30, "SIGPWR"), (31, "SIGSYS")]

def Ending.text : Ending → String
  | exited status => "exit status: " ++ toString status
  | killed signal =>
    "signal: " ++ toString signal ++
      match signalNames.lookup signal with
      | some name => " (" ++ name ++ ")"
      | none => ""

/-- What a run reports. -/
structure Report where
  ending : Ending := .exited 0
  errors : List UInt8 := []
  milliseconds : Nat := 0
deriving DecidableEq, Repr

/-- What is asked for: the command line, and the directory it is given in as names from the
transient directory. -/
structure Request where
  /-- The path of the transient directory, as it is written. -/
  transient : String
  /-- The entry names that lead to the transient directory. -/
  spot : List String
  within : List String
  arguments : List String
deriving DecidableEq, Repr

/-- The path of the directory a request is given in. -/
def Request.directory (r : Request) : String := "/".intercalate (r.transient :: r.within)

/-- The entry names that lead to that directory. -/
def Request.place (r : Request) : List String := r.spot ++ r.within

def Request.command (r : Request) : String := r.arguments.headD ""

/-- A program works inside the transient directory and nowhere else: it turns the tree of that
directory into another, unless it cannot be started. -/
abbrev Program := Request → FileTree → Except FileFault (Report × FileTree)

/-- The programs by name. -/
abbrev Programs := String → Program

/-- A program that is not there. -/
def Program.missing : Program := fun _ _ => .error .missing

/-- A program that does nothing and ends with a status. -/
def Program.ending (status : Nat) : Program := fun _ t => .ok ({ ending := .exited status }, t)

/-- Starts a program, which needs a directory to stand in and a command line without NUL. -/
def start (programs : Programs) (program : String) (r : Request) (t : FileTree) :
    Except FileFault (Report × FileTree) :=
  if (r.directory :: program :: r.arguments).any fun s => s.toList.contains '\x00' then
    .error .nulInCommand
  else
    match t.find? r.within with
    | none => .error .missing
    | some (.file _) => .error .notDirectory
    | some (.directory _) => programs program r t

end ModuleClosure.Git
