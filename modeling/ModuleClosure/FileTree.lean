/-!
# Trees of files

A tree is a file with its bytes or a directory with named entries. Paths are lists of entry names.
-/
namespace ModuleClosure

/-- Why an operation on files is refused; `stated` is a reason in the words of a caller. -/
inductive FileFault
  | missing
  | present
  | notDirectory
  | isDirectory
  | nameTooLong
  | nulInName
  | nulInCommand
  | notText
  | stated (text : String)
deriving DecidableEq, Repr

def FileFault.message : FileFault → String
  | missing => "No such file or directory (os error 2)"
  | present => "File exists (os error 17)"
  | notDirectory => "Not a directory (os error 20)"
  | isDirectory => "Is a directory (os error 21)"
  | nameTooLong => "File name too long (os error 36)"
  | nulInName => "file name contained an unexpected NUL byte"
  | nulInCommand => "nul byte found in provided data"
  | notText => "stream did not contain valid UTF-8"
  | stated text => text

inductive FileTree
  | file (content : ByteArray)
  | directory (entries : List (String × FileTree))

namespace FileTree

def empty : FileTree := directory []

def ofText (text : String) : FileTree := file text.toUTF8

def isDirectory : FileTree → Bool
  | file _ => false
  | directory _ => true

def entries : FileTree → List (String × FileTree)
  | file _ => []
  | directory es => es

def entryNames (t : FileTree) : List String := t.entries.map (·.1)

def entry? (t : FileTree) (name : String) : Option FileTree := t.entries.lookup name

/-- What stands at a path. -/
def find? (t : FileTree) : List String → Option FileTree
  | [] => some t
  | name :: path => (t.entry? name).bind (find? · path)

/-- Entries with `t` under a name, in the place of what was there before or at the end. -/
def setEntry (name : String) (t : FileTree) : List (String × FileTree) → List (String × FileTree)
  | [] => [(name, t)]
  | e :: es => if e.1 = name then (name, t) :: es else e :: setEntry name t es

/-- Puts the tree `new` at a path, making the directories that lead there. -/
def put (t new : FileTree) : List String → FileTree
  | [] => new
  | name :: path =>
    directory (setEntry name (put ((t.entry? name).getD empty) new path) t.entries)

/-- Removes the entry at a path, if there is one. -/
def remove (t : FileTree) : List String → FileTree
  | [] => t
  | [name] => directory (t.entries.filter fun e => e.1 ≠ name)
  | name :: path =>
    match t.entry? name with
    | none => t
    | some sub => directory (setEntry name (sub.remove path) t.entries)

/-- The text of a file. -/
def text (t : FileTree) : Except FileFault String :=
  match t with
  | directory _ => .error .isDirectory
  | file content =>
    match String.fromUTF8? content with
    | none => .error .notText
    | some s => .ok s

mutual

/-- The paths of all files. -/
def filePaths : FileTree → List (List String)
  | file _ => [[]]
  | directory es => filePathsOf es

def filePathsOf : List (String × FileTree) → List (List String)
  | [] => []
  | (name, t) :: es => (filePaths t).map (name :: ·) ++ filePathsOf es

end

end FileTree
end ModuleClosure
