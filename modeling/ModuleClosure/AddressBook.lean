import ModuleClosure.Notice

/-!
# Address books

Where the repository of a module is. The official book can be added to, and a hint for a name wins
over the book unless the hint is empty.
-/
namespace ModuleClosure

structure AddressBook where
  addresses : NameMap String := ∅
deriving DecidableEq

namespace AddressBook

def officialAddresses : List (String × String) :=
  [("dune-alugrid", "https://gitlab.dune-project.org/extensions/dune-alugrid.git"),
    ("dune-common", "https://gitlab.dune-project.org/core/dune-common.git"),
    ("dune-geometry", "https://gitlab.dune-project.org/core/dune-geometry.git"),
    ("dune-grid", "https://gitlab.dune-project.org/core/dune-grid.git"),
    ("dune-functions", "https://gitlab.dune-project.org/staging/dune-functions.git"),
    ("dune-istl", "https://gitlab.dune-project.org/core/dune-istl.git"),
    ("dune-localfunctions", "https://gitlab.dune-project.org/core/dune-localfunctions.git"),
    ("dune-pdelab", "https://gitlab.dune-project.org/pdelab/dune-pdelab.git"),
    ("dune-pdelab-howto", "https://gitlab.dune-project.org/pdelab/dune-pdelab-howto.git"),
    ("dune-pdelab-systemtesting",
      "https://gitlab.dune-project.org/quality/dune-pdelab-systemtesting.git"),
    ("dune-pdelab-tutorials",
      "https://gitlab.dune-project.org/pdelab/dune-pdelab-tutorials.git"),
    ("dune-python", "https://gitlab.dune-project.org/quality/dune-python.git"),
    ("dune-testtools", "https://gitlab.dune-project.org/quality/dune-testtools"),
    ("dune-typetree", "https://gitlab.dune-project.org/pdelab/dune-typetree.git")]

def official : AddressBook := ⟨.ofEntries officialAddresses⟩

def register (book : AddressBook) (name address : String) : AddressBook × Notice :=
  (⟨book.addresses.insert name address⟩, .addressRegistered name address)

/-- Registers addresses in order; a later one of the same name wins. -/
def registerAll (book : AddressBook) :
    List (String × String) → AddressBook × List Notice
  | [] => (book, [])
  | (name, address) :: rest =>
    let (book, notice) := book.register name address
    let (book, notices) := book.registerAll rest
    (book, notice :: notices)

def get? (book : AddressBook) (name : String) : Option String := book.addresses[name]?

def contains (book : AddressBook) (name : String) : Bool := book.addresses.contains name

def size (book : AddressBook) : Nat := book.addresses.size

def isEmpty (book : AddressBook) : Bool := book.addresses.isEmpty

/-- The entries in ascending order of their names. -/
def toList (book : AddressBook) : List (String × String) := book.addresses.toList

/-- The address of a module: the hint for it if it is not empty, else the book's entry. -/
def resolve (book : AddressBook) (hints : NameMap String) (name : String) :
    Except Failure String :=
  match (hints[name]?.filter (· ≠ "")).or (book.get? name) with
  | some address => .ok address
  | none => .error (.noAddress name)

end AddressBook
end ModuleClosure
