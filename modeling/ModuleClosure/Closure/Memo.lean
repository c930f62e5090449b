import ModuleClosure.Description

/-!
# Memos of a resolution

A memo holds the descriptions whose closure is complete, the names that are being resolved,
outermost first, and the names that were asked of the source, in order.
-/
namespace ModuleClosure

structure Memo where
  settled : NameMap Description := ∅
  pending : List String := []
  requested : List String := []
deriving DecidableEq

namespace Memo

def contains (m : Memo) (name : String) : Bool := m.settled.contains name

def get? (m : Memo) (name : String) : Option Description := m.settled[name]?

/-- Adds a complete description, unless there is one of that name. -/
def settle (m : Memo) (d : Description) : Memo :=
  if m.contains d.name then m else { m with settled := m.settled.insert d.name d }

def size (m : Memo) : Nat := m.settled.size

def isEmpty (m : Memo) : Bool := m.settled.isEmpty

/-- The complete descriptions in ascending order of their names. -/
def modules (m : Memo) : List Description := m.settled.toList.map (·.2)

def request (m : Memo) (name : String) : Memo := { m with requested := m.requested ++ [name] }

def enter (m : Memo) (name : String) : Memo := { m with pending := m.pending ++ [name] }

/-- Takes the last pending occurrence of a name away. -/
def leave (m : Memo) (name : String) : Memo :=
  { m with pending := (m.pending.reverse.erase name).reverse }

/-- The pending names from a pending name on, and that name again. -/
def cycleTo (m : Memo) (name : String) : List String :=
  m.pending.dropWhile (· ≠ name) ++ [name]

end Memo
end ModuleClosure
