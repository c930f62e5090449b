import ModuleClosure.Notice

/-!
# Sources of descriptions

A source is asked for the description of a module by its name. It answers or fails, reports what it
did, and may have a state that a question changes.
-/
namespace ModuleClosure

structure Reply (σ : Type) where
  outcome : Except Failure Description
  notices : List Notice := []
  state : σ

structure Source (σ : Type) where
  fetch : String → σ → Reply σ
  /-- How many different names the descriptions of this source can declare at most. -/
  reach : Nat

namespace Source

def hasDoubleDot : List Char → Bool
  | '.' :: '.' :: _ => true
  | _ :: r => hasDoubleDot r
  | [] => false

def isSeparator (c : Char) : Bool := c == '/' || c == '\\' || c == ':'

/-- Whether a name may become a part of a path: one ordinary path component. -/
def isPlain (name : String) : Bool :=
  let s := name.toList
  !s.isEmpty && !hasDoubleDot s && !s.any isSeparator && s != ['.']

end Source
end ModuleClosure
