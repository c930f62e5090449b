import ModuleClosure.FileTree
import ModuleClosure.Text.Blank

/-!
# Disks

A disk is a tree with a current directory. A path is followed name by name: `.` and an empty name
stay where they are, `..` goes back, and each of them asks for a directory to stand in.
-/
namespace ModuleClosure

structure Disk where
  root : FileTree := .empty
  here : List String := []

namespace Disk
open Text

structure Path where
  absolute : Bool := false
  parts : List String
deriving DecidableEq, Repr

namespace Path

/-- A path from its text; the empty text has no parts and names nothing. -/
def ofText (text : String) : Path :=
  match text.toList with
  | [] => ⟨false, []⟩
  | s => ⟨s.head? = some '/', (fields '/' s).map String.ofList⟩

def text (p : Path) : String := "/".intercalate p.parts

/-- Goes on to further names; an empty name at the end of the path gives way. -/
def join (p : Path) (names : List String) : Path :=
  let parts := if p.parts.getLast? = some "" then p.parts.dropLast else p.parts
  ⟨p.absolute, (if p.absolute ∧ parts = [] then [""] else parts) ++ names⟩

/-- Goes on along a path that is given as text; an absolute one starts anew. -/
def joinText (p : Path) (text : String) : Path :=
  let q := ofText text
  if q.absolute then q else p.join q.parts

/-- Whether the part at an index is a component: no empty name, and `.` only at the start of a
relative path. -/
def isComponent (p : Path) (index : Nat) (part : String) : Bool :=
  part ≠ "" && (part ≠ "." || (index == 0 && !p.absolute))

/-- The paths that lead to a path, the longest first. Each ends with a component, and none with the
last one. -/
def ancestors (p : Path) : List Path :=
  let ends := (p.parts.zipIdx.filter fun (part, i) => p.isComponent i part).map (·.2 + 1)
  ends.dropLast.reverse.map fun n => { p with parts := p.parts.take n }

/-- The path without its last component. -/
def parent (p : Path) : Path :=
  p.ancestors.headD { p with parts := if p.absolute then ["", ""] else [] }

/-- The components that decide whether two paths are equal. -/
def components (p : Path) : List String :=
  (if p.absolute then ["/"] else []) ++
    (p.parts.zipIdx.filter fun (part, i) => p.isComponent i part).map (·.1)

end Path

/-- The longest name of an entry, in bytes. -/
def nameLimit : Nat := 255

/-- The longest text of a path, in bytes. -/
def pathLimit : Nat := 4095

/-- Follows names from the directory `spot`, and gives the entry names that lead to where they
end. -/
def walk (root : FileTree) (spot : List String) : List String → Except FileFault (List String)
  | [] => .ok spot
  | name :: names =>
    match root.find? spot with
    | none => .error .missing
    | some (.file _) => .error .notDirectory
    | some (.directory es) =>
      if name = "" ∨ name = "." then walk root spot names
      else if name = ".." then walk root spot.dropLast names
      else if nameLimit < name.utf8ByteSize then .error .nameTooLong
      else if (es.lookup name).isNone then .error .missing
      else walk root (spot ++ [name]) names

def start (d : Disk) (p : Path) : List String := if p.absolute then [] else d.here

def holdsNul (p : Path) : Bool := p.parts.any fun part => part.toList.contains '\x00'

/-- Follows the first parts of a path that can be given to the system. -/
def follow (d : Disk) (p : Path) (parts : List String) : Except FileFault (List String) :=
  if holdsNul p then .error .nulInName
  else if p.parts = [] then .error .missing
  else if pathLimit < p.text.utf8ByteSize then .error .nameTooLong
  else walk d.root (d.start p) parts

/-- The entry names from the root to what a path names. -/
def resolve (d : Disk) (p : Path) : Except FileFault (List String) := d.follow p p.parts

def find (d : Disk) (p : Path) : Except FileFault FileTree :=
  match d.resolve p with
  | .error fault => .error fault
  | .ok spot =>
    match d.root.find? spot with
    | none => .error .missing
    | some t => .ok t

/-- Whether something stands at a path. Only a missing entry is an answer of no; every other fault
on the way is a fault of the question. -/
def exists? (d : Disk) (p : Path) : Except FileFault Bool :=
  match d.find p with
  | .ok _ => .ok true
  | .error .missing => .ok false
  | .error fault => .error fault

def readText (d : Disk) (p : Path) : Except FileFault String := (d.find p).bind FileTree.text

def isDirectory (d : Disk) (p : Path) : Bool :=
  match d.find p with
  | .ok t => t.isDirectory
  | .error _ => false

/-- Whether an entry can be made below a directory under a name. -/
def canMake (d : Disk) (spot : List String) (name : String) : Except FileFault Unit :=
  match d.root.find? spot with
  | none => .error .missing
  | some (.file _) => .error .notDirectory
  | some (.directory es) =>
    if name = "." ∨ name = ".." then .error .present
    else if nameLimit < name.utf8ByteSize then .error .nameTooLong
    else if (es.lookup name).isSome then .error .present
    else .ok ()

/-- Makes the directory that a path names, below one that is there. Slashes at the end of the path
do not count. -/
def makeDirectory (d : Disk) (p : Path) : Except FileFault Disk := do
  match p.parts.reverse.dropWhile (· = "") with
  | [] => if p.absolute then throw .present else throw .missing
  | name :: before =>
    let spot ← d.follow p before.reverse
    d.canMake spot name
    return { d with root := d.root.put .empty (spot ++ [name]) }

/-- Makes the directory of the first path, for which those of the others may be missing. A fault
does not matter if the directory is there, and what was made before a fault remains. -/
def makeFirst (d : Disk) : List Path → Disk × Except FileFault Unit
  | [] => (d, .ok ())
  | p :: ps =>
    let settle (d : Disk) (fault : FileFault) : Disk × Except FileFault Unit :=
      (d, if d.isDirectory p then .ok () else .error fault)
    match d.makeDirectory p with
    | .ok d => (d, .ok ())
    | .error .missing =>
      match d.makeFirst ps with
      | (d, .error fault) => (d, .error fault)
      | (d, .ok ()) =>
        match d.makeDirectory p with
        | .ok d => (d, .ok ())
        | .error fault => settle d fault
    | .error fault => settle d fault

/-- Makes the directory that a path names and those that lead there, where they are missing. -/
def makeDirectories (d : Disk) (p : Path) : Disk × Except FileFault Unit :=
  if p.parts = [] then (d, .ok ()) else d.makeFirst (p :: p.ancestors)

/-- The entry names that lead to a directory; the empty path is the current one. -/
def spotOf (d : Disk) (p : Path) : Except FileFault (List String) :=
  if p.parts = [] then .ok d.here else d.resolve p

/-- Opens a file for appending, making it if it is missing. -/
def touch (d : Disk) (p : Path) : Except FileFault Disk :=
  match d.find p with
  | .ok (.file _) => .ok d
  | .ok (.directory _) => .error .isDirectory
  | .error .missing =>
    match walk d.root (d.start p) p.parts.dropLast, p.parts.getLast? with
    | .error fault, _ => .error fault
    | .ok _, none => .error .missing
    | .ok spot, some name =>
      if name ∈ ["", ".", ".."] then .error .isDirectory
      else .ok { d with root := d.root.put (.file .empty) (spot ++ [name]) }
  | .error fault => .error fault

end Disk
end ModuleClosure
