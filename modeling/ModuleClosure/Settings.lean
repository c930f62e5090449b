import ModuleClosure.Description
import ModuleClosure.Disk

/-!
# Settings

What can be set, with defaults, and the overlay of one set of settings over another.
-/
namespace ModuleClosure

structure FetchSettings where
  /-- Where transient clones are made; the system's temporary directory if not set. -/
  workdir : Option String := none
  program : String := "git"
  timeoutSeconds : Option Nat := none
deriving DecidableEq

structure LogSettings where
  level : String := "info"
  toFile : Bool := false
  directory : Option String := none
  json : Bool := false
  rotation : String := "daily"
deriving DecidableEq

structure Settings where
  /-- The file the settings were read from. -/
  file : Option String := none
  fetch : FetchSettings := {}
  logging : LogSettings := {}
  repositories : NameMap String := ∅
  hints : NameMap String := ∅
  development : Bool := false
deriving DecidableEq

namespace FetchSettings

/-- What `upper` sets, else what `base` has. A program counts as set if it is not the default. -/
def overlay (base upper : FetchSettings) : FetchSettings where
  workdir := upper.workdir.or base.workdir
  program := if upper.program = "git" then base.program else upper.program
  timeoutSeconds := upper.timeoutSeconds.or base.timeoutSeconds

end FetchSettings

namespace LogSettings

/-- A level counts as set if it is not the default, and a directory goes with logging to a file.
The rotation stays that of `base`. -/
def overlay (base upper : LogSettings) : LogSettings where
  level := if upper.level = "info" then base.level else upper.level
  toFile := upper.toFile || base.toFile
  directory := if upper.toFile then upper.directory else base.directory
  json := upper.json || base.json
  rotation := base.rotation

end LogSettings

namespace Settings

/-- Lays `upper` over `base`: what it sets wins, and entries of maps add up. The file stays that of
`base`. -/
def overlay (base upper : Settings) : Settings where
  file := base.file
  fetch := base.fetch.overlay upper.fetch
  logging := base.logging.overlay upper.logging
  repositories := base.repositories ∪ upper.repositories
  hints := base.hints ∪ upper.hints
  development := upper.development || base.development

def withWorkdir (s : Settings) (directory : String) : Settings :=
  { s with fetch := { s.fetch with workdir := some directory } }

def withProgram (s : Settings) (program : String) : Settings :=
  { s with fetch := { s.fetch with program } }

def withTimeout (s : Settings) (seconds : Nat) : Settings :=
  { s with fetch := { s.fetch with timeoutSeconds := some seconds } }

def withRepository (s : Settings) (name address : String) : Settings :=
  { s with repositories := s.repositories.insert name address }

def withHint (s : Settings) (name address : String) : Settings :=
  { s with hints := s.hints.insert name address }

def withLevel (s : Settings) (level : String) : Settings :=
  { s with logging := { s.logging with level } }

def withLogDirectory (s : Settings) (directory : String) : Settings :=
  { s with logging := { s.logging with toFile := true, directory := some directory } }

def withJsonLog (s : Settings) : Settings :=
  { s with logging := { s.logging with json := true } }

def inDevelopment (s : Settings) : Settings := { s with development := true }

/-- The settings with each path as its components, in which equal paths are the same. -/
def withoutPaths (s : Settings) : Settings × List (Option (List String)) :=
  let components (p : Option String) := p.map fun t => (Disk.Path.ofText t).components
  ({ s with
      file := none
      fetch := { s.fetch with workdir := none }
      logging := { s.logging with directory := none } },
    [components s.file, components s.fetch.workdir, components s.logging.directory])

/-- Equality, where two ways to write a path do not differ. -/
def agrees (s t : Settings) : Bool := decide (s.withoutPaths = t.withoutPaths)

end Settings
end ModuleClosure
