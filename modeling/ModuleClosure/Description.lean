import Std.Data.ExtTreeMap.Lemmas
import Std.Data.ExtTreeSet.Lemmas
import ModuleClosure.Dependency

/-!
# Module descriptions

A description names a module, the modules it depends on, the modules it suggests, and version
bounds for some of them. Names are kept in sets ordered by code point.
-/
namespace ModuleClosure

abbrev NameSet := Std.ExtTreeSet String

/-- A map from names, ordered by code point. -/
abbrev NameMap (α : Type) := Std.ExtTreeMap String α

def NameSet.ofNames (names : List String) : NameSet := Std.ExtTreeSet.ofList names

/-- A map from entries in order; a later entry of the same name wins. -/
def NameMap.ofEntries {α : Type} (entries : List (String × α)) : NameMap α :=
  Std.ExtTreeMap.ofList entries

structure Description where
  name : String
  version : Option String := none
  maintainer : Option String := none
  whitespaceHook : Bool := false
  depends : NameSet := ∅
  suggests : NameSet := ∅
  bounds : NameMap Bound := ∅
deriving DecidableEq

namespace Description
open Text

/-- The description of a module that declares nothing; a name of blanks is refused. -/
def ofName? (name : String) : Option Description :=
  if name.toList.all isBlank then none else some { name }

def dependingOn (d : Description) (name : String) : Description :=
  { d with depends := d.depends.insert name }

def suggesting (d : Description) (name : String) : Description :=
  { d with suggests := d.suggests.insert name }

def bounding (d : Description) (name : String) (b : Bound) : Description :=
  { d with bounds := d.bounds.insert name b }

/-- The name, followed by the version if there is one. -/
def label (d : Description) : String :=
  match d.version with
  | none => d.name
  | some v => d.name ++ " " ++ v

def isLeaf (d : Description) : Bool := d.depends.isEmpty && d.suggests.isEmpty

def sameModule (d e : Description) : Bool := d.name == e.name

end Description
end ModuleClosure
