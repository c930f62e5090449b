import ModuleClosure.Text.Blank

/-!
# Requests

What a command line asks for, and how its arguments are read: first the options of the program,
then the name of a command, then the options and the words of that command. The options of the
program may also stand behind the name of a command, where they win.
-/
namespace ModuleClosure.CommandLine
open Text

structure ClosureOptions where
  file : String := "dune.module"
  hints : List String := []
  /-- The directory that takes the place of the repositories. -/
  directory : Option String := none
  workdir : Option String := none
  json : Bool := false
deriving DecidableEq, Repr

/-- What is done with settings in force and a log begun. -/
inductive Task
  | closure (options : ClosureOptions)
  | describe (file : String) (json : Bool)
  | parameters (file base : String)
  | repositories
deriving DecidableEq, Repr

inductive Command
  | version
  | checkSettings
  | perform (task : Task)
deriving DecidableEq, Repr

structure Request where
  settingsFile : String := "dune-modules.yaml"
  level : Option String := none
  development : Bool := false
  command : Command
deriving DecidableEq, Repr

/-- What is answered when the arguments are no request. -/
inductive Instead
  | version (title : String)
  | help
  | misuse
deriving DecidableEq, Repr

/-! ## Options -/

inductive Key
  | settingsFile
  | level
  | development
  | hint
  | directory
  | workdir
  | json
  | base
  | version
  | help
deriving DecidableEq, Repr

/-- What an option needs behind it. -/
inductive Need
  | nothing
  | text
  | path
deriving DecidableEq, Repr

namespace Key

def word : Key → String
  | settingsFile => "config"
  | level => "log-level"
  | development => "dev"
  | hint => "hint"
  | directory => "local"
  | workdir => "workdir"
  | json => "json"
  | base => "prefix"
  | version => "version"
  | help => "help"

def letter? : Key → Option Char
  | settingsFile => some 'c'
  | level => some 'l'
  | version => some 'V'
  | help => some 'h'
  | _ => none

def need : Key → Need
  | settingsFile | directory | workdir => .path
  | level | hint | base => .text
  | development | json | version | help => .nothing

/-- The options that may stand at every level. -/
def everywhere : List Key := [settingsFile, level, development, version, help]

end Key

/-- An argument that does not stand for the value of an option. -/
inductive Argument
  | word
  | endOfOptions
  | option (key : Key) (attached : Option String)
  | unknown
deriving DecidableEq, Repr

namespace Argument

/-- Reads what follows two dashes: a name, which may have a value attached with `=`. -/
def ofLong (keys : List Key) (s : List Char) : Argument :=
  let (name, attached) := match cut? '=' s with
    | some (name, value) => (name, some (String.ofList value))
    | none => (s, none)
  match keys.find? fun key => key.word = String.ofList name with
  | none => unknown
  | some key => option key attached

/-- Reads what follows one dash: a letter, which may have a value attached with or without `=`. -/
def ofShort (keys : List Key) (letter : Char) (s : List Char) : Argument :=
  match keys.find? fun key => key.letter? = some letter with
  | none => unknown
  | some key =>
    if key.need = .nothing ∨ s = [] then option key none
    else option key (some (String.ofList ((after? ['='] s).getD s)))

def read (keys : List Key) (text : String) : Argument :=
  match text.toList with
  | ['-', '-'] => endOfOptions
  | '-' :: '-' :: s => ofLong keys s
  | '-' :: letter :: s => ofShort keys letter s
  | _ => word

end Argument

/-- Whether an argument can stand for a value behind an option. -/
def isValue (text : String) : Bool := text = "-" || !text.startsWith "-"

/-! ## Levels -/

/-- What may be given to the program, or to a command. -/
structure Form where
  title : String
  keys : List Key
  wordLimit : Nat := 0
  /-- The words that end this level. -/
  commands : List String := []

/-- What was given at a level. The last option, if its value stands apart from it, is `pending`
until the next one or the end of the level. -/
structure Level where
  given : List (Key × String) := []
  words : List String := []
  pending : Option (Key × Option String) := none
deriving DecidableEq, Repr

namespace Level

/-- Takes an option with its value. A path is not empty, and only hints may be repeated. -/
def put (l : Level) (key : Key) (value : String) : Except Instead Level :=
  if key.need = .path ∧ value = "" then .error .misuse
  else if key ≠ .hint ∧ l.given.any (·.1 = key) then .error .misuse
  else .ok { l with given := l.given ++ [(key, value)] }

def settle (l : Level) : Except Instead Level :=
  match l.pending with
  | none => .ok l
  | some (_, none) => .error .misuse
  | some (key, some value) => { l with pending := none }.put key value

/-- Takes an option as it stands. -/
def takeOption (f : Form) (l : Level) (key : Key) (attached : Option String) :
    Except Instead Level :=
  match l.settle with
  | .error instead => .error instead
  | .ok l =>
    match key.need, attached with
    | .nothing, some _ => .error .misuse
    | .nothing, none =>
      if key = .version then .error (.version f.title)
      else if key = .help then .error .help
      else l.put key ""
    | _, some value => l.put key value
    | _, none => .ok { l with pending := some (key, none) }

/-- Takes a word, which is a path. -/
def takeWord (f : Form) (l : Level) (text : String) : Except Instead Level :=
  match l.settle with
  | .error instead => .error instead
  | .ok l =>
    if text = "" ∨ f.wordLimit ≤ l.words.length then .error .misuse
    else .ok { l with words := l.words ++ [text] }

/-- Takes an argument, behind the end of the options or before it; says whether it is before it. -/
def take (f : Form) (isOpen : Bool) (l : Level) (text : String) : Except Instead (Bool × Level) :=
  match isOpen, l.pending with
  | true, some (key, none) =>
    if isValue text then .ok (true, { l with pending := some (key, some text) })
    else .error .misuse
  | true, _ =>
    match Argument.read f.keys text with
    | .word => (l.takeWord f text).map (true, ·)
    | .endOfOptions => .ok (false, l)
    | .option key attached => (l.takeOption f key attached).map (true, ·)
    | .unknown => .error .misuse
  | false, _ => (l.takeWord f text).map (false, ·)

/-- Whether an option still waits for its value. -/
def isWaiting (l : Level) : Bool := l.pending.any (·.2.isNone)

/-- Reads a level up to the word that ends it, and gives the arguments from that word on. -/
def read (f : Form) (isOpen : Bool) (l : Level) :
    List String → Except Instead (Level × List String)
  | [] => .ok (l, [])
  | text :: rest =>
    if isOpen ∧ ¬ l.isWaiting ∧ text ∈ f.commands then .ok (l, text :: rest)
    else
      match l.take f isOpen text with
      | .error instead => .error instead
      | .ok (isOpen, l) => read f isOpen l rest

def value? (l : Level) (key : Key) : Option String := l.given.lookup key

def has (l : Level) (key : Key) : Bool := l.given.any (·.1 = key)

def values (l : Level) (key : Key) : List String :=
  (l.given.filter (·.1 = key)).map (·.2)

end Level

/-! ## Commands -/

/-- The name of the program. -/
def programName : String := "dune-modules"

inductive CommandName
  | closure
  | describe
  | parameters
  | repositories
  | checkSettings
  | version
deriving DecidableEq, Repr

namespace CommandName

def all : List CommandName :=
  [closure, describe, parameters, repositories, checkSettings, version]

def word : CommandName → String
  | closure => "closure"
  | describe => "parse"
  | parameters => "ini"
  | repositories => "repos"
  | checkSettings => "check-config"
  | version => "version"

def ofWord? (word : String) : Option CommandName := all.find? fun name => name.word = word

def ownKeys : CommandName → List Key
  | closure => [.hint, .directory, .workdir, .json]
  | describe => [.json]
  | parameters => [.base]
  | repositories | checkSettings | version => []

def wordLimit : CommandName → Nat
  | closure | describe | parameters => 1
  | repositories | checkSettings | version => 0

def form (name : CommandName) : Form where
  title := programName ++ "-" ++ name.word
  keys := name.ownKeys ++ Key.everywhere
  wordLimit := name.wordLimit

/-- The command with what was given to it. -/
def command (l : Level) : CommandName → Except Instead Command
  | closure =>
    .ok (.perform (.closure {
      file := l.words.headD "dune.module"
      hints := l.values .hint
      directory := l.value? .directory
      workdir := l.value? .workdir
      json := l.has .json }))
  | describe => .ok (.perform (.describe (l.words.headD "dune.module") (l.has .json)))
  | parameters =>
    match l.words with
    | [] => .error .misuse
    | file :: _ => .ok (.perform (.parameters file ((l.value? .base).getD "")))
  | repositories => .ok (.perform .repositories)
  | checkSettings => .ok .checkSettings
  | version => .ok .version

end CommandName

/-- The word that asks for help. -/
def helpWord : String := "help"

def Form.program : Form where
  title := programName
  keys := Key.everywhere
  commands := helpWord :: CommandName.all.map CommandName.word

/-- What is answered to a request for help on commands. -/
def helpOn : List String → Instead
  | [] => .help
  | [word] => if word ∈ Form.program.commands then .help else .misuse
  | _ => .misuse

namespace Request

/-- Puts together what was given to the program and to a command. The program's level is settled
last. -/
def ofLevels (program : Level) (name : CommandName) (own : Level) : Except Instead Request := do
  let own ← own.settle
  let command ← name.command own
  let program ← program.settle
  return {
    settingsFile := ((own.value? .settingsFile).or (program.value? .settingsFile)).getD
      "dune-modules.yaml"
    level := (own.value? .level).or (program.value? .level)
    development := program.has .development || own.has .development
    command }

def ofArguments (arguments : List String) : Except Instead Request := do
  let (program, rest) ← Level.read .program true {} arguments
  match rest with
  | [] => .error .misuse
  | word :: rest =>
    match CommandName.ofWord? word with
    | none => .error (helpOn rest)
    | some name =>
      let (own, _) ← Level.read name.form true {} rest
      ofLevels program name own

end Request
end ModuleClosure.CommandLine
