import ModuleClosure.CommandLine.Run

/-!
# Snapshots of a disk

A run sees only the part of a disk that was looked up for it. The module says where a looked up
entry belongs, and what a run has added to a disk.
-/
namespace ModuleClosure

/-- The paths that lead to a path, the shortest first, and the path itself. -/
def Disk.Path.leading (p : Disk.Path) : List Disk.Path :=
  ((List.range (p.parts.length + 1)).drop 1).map fun n => { p with parts := p.parts.take n }

namespace Disk

/-- The entry names of a path when every name on the way is that of a directory. -/
def place (d : Disk) (p : Path) : List String :=
  p.parts.foldl (fun spot name =>
    if name = "" ∨ name = "." then spot
    else if name = ".." then spot.dropLast
    else spot ++ [name]) (d.start p)

/-- The disk with what was found at a path, unless something stands there. -/
def learn (d : Disk) (p : Path) (found : FileTree) : Disk :=
  let spot := d.place p
  if (d.root.find? spot).isSome then d else { d with root := d.root.put found spot }

end Disk

namespace FileTree

mutual

/-- What a tree has more than another: paths, with the content of those that are files. A directory
stands before what it holds. -/
def additions (before : Option FileTree) : FileTree → List (List String × Option ByteArray)
  | file content => if before.isSome then [] else [([], some content)]
  | directory entries =>
    (if before.isSome then [] else [([], none)]) ++ additionsOf before entries

def additionsOf (before : Option FileTree) :
    List (String × FileTree) → List (List String × Option ByteArray)
  | [] => []
  | (name, t) :: rest =>
    (additions (before.bind fun b => b.entry? name) t).map (fun a => (name :: a.1, a.2)) ++
      additionsOf before rest

end

end FileTree
end ModuleClosure
