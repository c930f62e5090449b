import Std.Data.ExtTreeMap.Lemmas
import ModuleClosure.Text.Blank

/-!
# Parameters

A flat set of parameters: each key is a text, mostly a path such as `group.subgroup.y`, and keys
are ordered by code point.
-/
namespace ModuleClosure
open Text

structure Parameters where
  values : Std.ExtTreeMap String String := ∅
deriving DecidableEq

namespace Parameters

def insert (p : Parameters) (key value : String) : Parameters := ⟨p.values.insert key value⟩

def get? (p : Parameters) (key : String) : Option String := p.values[key]?

def contains (p : Parameters) (key : String) : Bool := p.values.contains key

def size (p : Parameters) : Nat := p.values.size

def isEmpty (p : Parameters) : Bool := p.values.isEmpty

/-- The entries in ascending order of their keys. -/
def toList (p : Parameters) : List (String × String) := p.values.toList

def ofList (entries : List (String × String)) : Parameters := ⟨.ofList entries⟩

/-- What the keys of a subtree begin with: the path without the dots at its end, then one dot. -/
def underPath (path : String) : List Char :=
  (path.toList.reverse.dropWhile (· == '.')).reverse ++ ['.']

/-- The parameters under a path, their keys without it. -/
def sub (p : Parameters) (path : String) : Parameters :=
  ofList (p.toList.filterMap fun entry =>
    (after? (underPath path) entry.1.toList).map fun key => (String.ofList key, entry.2))

/-- The parameters of both, where `q` wins. -/
def override (p q : Parameters) : Parameters := ⟨p.values ∪ q.values⟩

end Parameters
end ModuleClosure
