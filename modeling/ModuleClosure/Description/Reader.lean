import ModuleClosure.Disk
import ModuleClosure.Failure

/-!
# Reading description files

The lines of a file are read in order and the first refused one decides the failure. A description
is then put together from what the lines say: a single value comes from the last line of its key,
and names add up over all lines.
-/
namespace ModuleClosure.Description
open Text

/-- What the lines say; `number` is the number of the first of them. -/
def fieldsFrom (number : Nat) : List (List Char) → Except Failure (List Field)
  | [] => .ok []
  | line :: rest =>
    if isSkipped (trim line) then fieldsFrom (number + 1) rest
    else
      match Field.ofLine (trim line) with
      | .error fault => .error (.descriptionLine number fault)
      | .ok field => (fieldsFrom (number + 1) rest).map (field :: ·)

def Field.name? : Field → Option String
  | name value => some value
  | _ => none

def Field.version? : Field → Option String
  | version value => some value
  | _ => none

def Field.maintainer? : Field → Option String
  | maintainer value => some value
  | _ => none

def Field.whitespaceHook? : Field → Option Bool
  | whitespaceHook value => some value
  | _ => none

def Field.required : Field → List Dependency
  | depends entries => entries
  | _ => []

def Field.suggested : Field → List Dependency
  | suggests entries => entries
  | _ => []

/-- The last value that some field has. -/
def lastOf {α : Type} (select : Field → Option α) (fields : List Field) : Option α :=
  (fields.filterMap select).getLast?

def namesOf (entries : List Dependency) : NameSet := .ofNames (entries.map (·.name))

def recordBound (bounds : NameMap Bound) (entry : Dependency) : NameMap Bound :=
  match entry.bound with
  | none => bounds
  | some b => bounds.insert entry.name b

/-- The bounds of all entries. A required entry wins over a suggested one; among required ones the
last wins, among suggested ones the first. -/
def boundsOf (required suggested : List Dependency) : NameMap Bound :=
  (suggested.reverse ++ required).foldl recordBound ∅

def ofFields (fields : List Field) : Except Failure Description :=
  match lastOf Field.name? fields with
  | none => .error (.invalid .noName)
  | some name =>
    let required := fields.flatMap Field.required
    let suggested := fields.flatMap Field.suggested
    .ok {
      name
      version := lastOf Field.version? fields
      maintainer := lastOf Field.maintainer? fields
      whitespaceHook := (lastOf Field.whitespaceHook? fields).getD false
      depends := namesOf required
      suggests := namesOf suggested
      bounds := boundsOf required suggested }

def read (text : String) : Except Failure Description :=
  (fieldsFrom 1 (lines text.toList)).bind ofFields

/-- Reads a description file of a disk. -/
def ofFile (disk : Disk) (path : Disk.Path) : Except Failure Description :=
  match disk.readText path with
  | .error fault => .error (.files fault)
  | .ok text => read text

/-- A dependency list that stands on a line with a number. -/
def readList (number : Nat) (value : String) : Except Failure (List Dependency) :=
  match listOf value.toList with
  | .error fault => .error (.descriptionLine number fault)
  | .ok entries => .ok entries

end ModuleClosure.Description
