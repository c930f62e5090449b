import ModuleClosure.Text.Lowercase

/-!
# Rotation of log files

How often a log file is replaced by a new one, and the name of the current one.
-/
namespace ModuleClosure.Logging
open Text

inductive Rotation
  | never
  | hourly
  | daily
deriving DecidableEq, Repr

namespace Rotation

def text : Rotation → String
  | never => "never"
  | hourly => "hourly"
  | daily => "daily"

/-- A rotation by one of its names, in any case of letters; any other text means daily. -/
def ofText (s : String) : Rotation :=
  let word := String.ofList (lowercase s.toList)
  if word = "never" ∨ word = "none" then never
  else if word = "hourly" ∨ word = "hour" then hourly
  else daily

instance : Inhabited Rotation := ⟨daily⟩

end Rotation

/-- The current date, and the current date with the hour, as file names show them. -/
structure Dates where
  day : String
  hour : String
deriving DecidableEq, Repr

/-- The name of the current log file. -/
def Rotation.fileName (base : String) (dates : Dates) : Rotation → String
  | never => base ++ ".log"
  | hourly => base ++ ".log." ++ dates.hour
  | daily => base ++ ".log." ++ dates.day

end ModuleClosure.Logging
