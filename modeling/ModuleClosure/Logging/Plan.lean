import ModuleClosure.Logging.Rotation
import ModuleClosure.Settings

/-!
# Log plans

What is logged, where to and in which form.
-/
namespace ModuleClosure.Logging

structure Plan where
  level : String := "info"
  json : Bool := false
  console : Bool := true
  directory : Option String := none
  /-- What the names of log files begin with. -/
  fileName : String := "dune-modules"
  rotation : Rotation := .daily
  showTarget : Bool := true
  showLine : Bool := false
  directives : Option String := none
  colours : Bool := true
deriving DecidableEq, Repr

/-- The plan that log settings ask for. -/
def Plan.ofSettings (s : LogSettings) : Plan where
  level := s.level
  json := s.json
  directory := if s.toFile then s.directory else none
  rotation := .ofText s.rotation

end ModuleClosure.Logging
