import ModuleClosure.Document
import ModuleClosure.Failure
import ModuleClosure.Json.Reader
import ModuleClosure.Settings
import ModuleClosure.Yaml.Reader

/-!
# Reading settings

Settings are a record in which every field has its default. A file is JSON if its extension says
so, and YAML otherwise.
-/
namespace ModuleClosure
open Text

def FetchSettings.ofDocument? (d : Document) : Option FetchSettings := do
  let field ← d.fields? ["workdir", "git_program", "timeout_secs"]
  let workdir ← Document.withDefault? none (Document.optional? Document.text?) (field "workdir")
  let program ← Document.withDefault? "git" Document.text? (field "git_program")
  let timeoutSeconds ←
    Document.withDefault? none (Document.optional? Document.natural?) (field "timeout_secs")
  return { workdir, program, timeoutSeconds }

def LogSettings.ofDocument? (d : Document) : Option LogSettings := do
  let field ← d.fields? ["level", "file_output", "log_dir", "json_format", "rotation"]
  let level ← Document.withDefault? "info" Document.text? (field "level")
  let toFile ← Document.withDefault? false Document.truth? (field "file_output")
  let directory ← Document.withDefault? none (Document.optional? Document.text?) (field "log_dir")
  let json ← Document.withDefault? false Document.truth? (field "json_format")
  let rotation ← Document.withDefault? "daily" Document.text? (field "rotation")
  return { level, toFile, directory, json, rotation }

namespace Settings

def addressMap? (d : Document) : Option (NameMap String) :=
  (d.entries? Document.text?).map .ofEntries

def ofDocument? (d : Document) : Option Settings := do
  let field ← d.fields? ["fetch", "logging", "repositories", "hints", "dev_mode"]
  let fetch ← Document.withDefault? {} FetchSettings.ofDocument? (field "fetch")
  let logging ← Document.withDefault? {} LogSettings.ofDocument? (field "logging")
  let repositories ← Document.withDefault? ∅ addressMap? (field "repositories")
  let hints ← Document.withDefault? ∅ addressMap? (field "hints")
  let development ← Document.withDefault? false Document.truth? (field "dev_mode")
  return { fetch, logging, repositories, hints, development }

/-- What follows the last dot of a file name, unless nothing stands before that dot. -/
def extension? (name : String) : Option String :=
  match (fields '.' name.toList).reverse with
  | last :: rest =>
    if rest = [] ∨ rest = [[]] ∨ name = ".." then none else some (String.ofList last)
  | [] => none

/-- The last name of a path. -/
def lastName (path : String) : String :=
  ((Disk.Path.ofText path).parts.filter fun part => part ≠ "" ∧ part ≠ ".").getLast?.getD ""

def formatOf (path : String) : DataFormat :=
  if extension? (lastName path) = some "json" then .json else .yaml

/-- How deep settings are nested: a record of records of texts. -/
def nesting : Nat := 2

def ofText (format : DataFormat) (text : String) : Except Failure Settings :=
  let document := match format with
    | .json => (Json.read? text).map Json.document
    | .yaml => Yaml.read? nesting text
  match document.bind ofDocument? with
  | some s => .ok s
  | none => .error (.malformed format)

/-- Reads a settings file of a disk. -/
def ofFile (disk : Disk) (path : String) : Except Failure Settings :=
  match disk.readText (.ofText path) with
  | .error fault => .error (.files fault)
  | .ok text => (ofText (formatOf path) text).map fun s => { s with file := some path }

end Settings
end ModuleClosure
