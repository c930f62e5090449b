import ModuleClosure.Logging.Pattern
import ModuleClosure.Parameters.Value
import ModuleClosure.Text.Alphanumeric
import ModuleClosure.Text.Blank

/-!
# Filter directives

A directive says how much is logged: a verbosity, a target, or a target with a span in brackets
and fields in braces, and behind `=` the verbosity for it.
-/
namespace ModuleClosure.Logging
open Text

inductive Verbosity
  | off
  | error
  | warn
  | info
  | debug
  | trace
deriving DecidableEq, Repr

/-- Why a text is no directive. -/
inductive DirectiveFault
  | malformed
  | verbosity
  | pattern (fault : PatternFault)
deriving DecidableEq, Repr

def DirectiveFault.message : DirectiveFault → String
  | malformed => "invalid filter directive"
  | verbosity =>
    "error parsing level filter: expected one of \"off\", \"error\", \"warn\", \"info\", " ++
      "\"debug\", \"trace\", or a number 0-5"
  | pattern fault => "invalid field filter: " ++ fault.message

/-- Why the reading of a directive ends without one. -/
inductive Misreading
  | fault (fault : DirectiveFault)
  /-- A part of the text would start or end inside a character. -/
  | torn
deriving DecidableEq, Repr

namespace Verbosity

def named : List (String × Verbosity) :=
  [("off", off), ("error", error), ("warn", warn), ("info", info), ("debug", debug),
    ("trace", trace)]

/-- A number from 0 to 5, with as many zeros and as much of a plus sign before it as it likes. -/
def ofNumber? (s : List Char) : Option Verbosity :=
  let digits := match s with
    | '+' :: r => r
    | _ => s
  match digits.reverse with
  | [] => none
  | last :: zeros =>
    if !zeros.all (· == '0') then none
    else match last with
      | '0' => some off
      | '1' => some error
      | '2' => some warn
      | '3' => some info
      | '4' => some debug
      | '5' => some trace
      | _ => none

/-- A verbosity by number or by name, in any case of letters; the empty text means errors. -/
def ofText? (s : List Char) : Option Verbosity :=
  if s = [] then some error
  else (ofNumber? s).or (named.lookup (String.ofList (s.map Char.toLower)))

end Verbosity

namespace Directive

/-- Where the reading of a directive stands, and the position behind the mark that led there. -/
inductive Stage
  | start
  | word
  | span (position : Nat)
  | field (position : Nat)
  | fields
  | target
  | verbosity (position : Nat)
deriving DecidableEq, Repr

/-- The characters a directive may start with, brackets apart. -/
def startsWord (c : Char) : Bool := c == '-' || c == ':' || c == '_' || isAlphanumeric c

/-- The part of a text between two positions, in octets. -/
def part (text : List Char) (first last : Nat) : Except Misreading (List Char) :=
  match cutAt? last text with
  | none => .error .torn
  | some (before, _) =>
    match cutAt? first before with
    | none => .error .torn
    | some (_, part) => .ok part

/-- A value is a number, or a pattern. -/
def checkValue (s : List Char) : Except PatternFault Unit :=
  match Parameters.readFloating .double s with
  | .ok _ => .ok ()
  | .error _ => Pattern.check s

/-- A field is a name, and a value behind the first `=`; what follows a second one does not
count. -/
def checkField (field : List Char) : Except Misreading Unit :=
  match Text.fields '=' field with
  | _ :: value :: _ => (checkValue value).mapError fun fault => .fault (.pattern fault)
  | _ => .ok ()

/-- The stage behind a character at a position of a text. -/
def Stage.next (text : List Char) (position : Nat) (c : Char) (stage : Stage) :
    Except Misreading Stage := do
  match stage with
  | start =>
    if c = '[' then return span (position + 1)
    else if startsWord c then return word
    else throw (.fault .malformed)
  | word =>
    if c = '=' ∨ c = '[' then
      let _ ← part text 0 position
      return if c = '=' then verbosity (position + 1) else span (position + 1)
    else return word
  | span first =>
    if c = ']' ∨ c = '\x7b' then
      let _ ← part text first position
      return if c = ']' then target else field (position + 1)
    else return span first
  | field first =>
    if c = '\x7d' then
      let s ← part text first position
      if s = [] then throw (.fault .malformed)
      checkField s
      return fields
    else return field first
  | fields => if c = ']' then return target else throw (.fault .malformed)
  | target => if c = '=' then return verbosity (position + 1) else throw (.fault .malformed)
  | verbosity first => return verbosity first

/-- The stage behind characters that stand at a position of a text. -/
def stageOf (text : List Char) (position : Nat) (stage : Stage) :
    List Char → Except Misreading Stage
  | [] => .ok stage
  | c :: r => do stageOf text (position + c.utf8Size) (← stage.next text position c) r

/-- Reads a directive. Its stages are those of the trimmed text, but the parts are taken from the
same positions of the text as it stands. -/
def read (text : List Char) : Except Misreading Verbosity := do
  match ← stageOf text 0 .start (trim text) with
  | .word => return (Verbosity.ofText? text).getD .trace
  | .target => return .trace
  | .verbosity first =>
    match cutAt? first text with
    | none => throw .torn
    | some (_, []) => return .trace
    | some (_, s) =>
      match Verbosity.ofText? s with
      | some v => return v
      | none => throw (.fault .verbosity)
  | _ => throw (.fault .malformed)

/-- Reads directives with commas between them; empty ones are passed over. -/
def readAll (text : List Char) : Except Misreading (List Verbosity) :=
  ((fields ',' text).filter (· ≠ [])).mapM read

end Directive
end ModuleClosure.Logging
