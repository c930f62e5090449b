import ModuleClosure.Json

/-!
# Documents

What a reader of typed fields sees of a value, whatever notation it was written in: scalars with
the readings they allow, lists, and records. Every reader gives nothing where a value does not fit.
-/
namespace ModuleClosure

/-- The readings of a scalar. -/
structure Scalar where
  text? : Option String := none
  truth? : Option Bool := none
  natural? : Option Nat := none
  /-- Whether it stands for an absent value; nothing where it contradicts itself. -/
  null? : Option Bool := some false
  /-- Stands for a list or record without parts. -/
  isEmpty : Bool := false
deriving DecidableEq, Repr

inductive Document
  | scalar (s : Scalar)
  /-- A list; a positional one may stand for a record by giving its fields in order. -/
  | list (positional : Bool) (items : List Document)
  | record (members : List (String × Document))

namespace Document

def text? : Document → Option String
  | scalar s => s.text?
  | _ => none

def truth? : Document → Option Bool
  | scalar s => s.truth?
  | _ => none

/-- A whole number below 2^64. -/
def natural? : Document → Option Nat
  | scalar s => s.natural?.filter (· < Nat.pow 2 64)
  | _ => none

/-- Nothing for an absent value, else what `read` finds. -/
def optional? {α : Type} (read : Document → Option α) (d : Document) : Option (Option α) :=
  match d with
  | scalar s => s.null?.bind fun isNull => if isNull then some none else (read d).map some
  | _ => (read d).map some

def items? : Document → Option (List Document)
  | list _ items => some items
  | scalar s => if s.isEmpty then some [] else none
  | _ => none

def members? : Document → Option (List (String × Document))
  | record ms => some ms
  | scalar s => if s.isEmpty then some [] else none
  | _ => none

def texts? (d : Document) : Option (List String) := d.items?.bind fun ds => ds.mapM text?

/-- Entries whose values are all read. -/
def entries? {α : Type} (read : Document → Option α) (d : Document) : Option (List (String × α)) :=
  d.members?.bind fun ms => ms.mapM fun m => (read m.2).map (m.1, ·)

/-- The fields of a record with the given names. Other members do not count, but none of these may
stand twice. -/
def fields? (names : List String) (d : Document) : Option (String → Option Document) :=
  match d with
  | record ms =>
    if names.any fun name => 1 < (ms.filter (·.1 == name)).length then none
    else some fun name => ms.lookup name
  | list true items =>
    if items.length ≤ names.length then some fun name => (names.zip items).lookup name else none
  | list false _ => none
  | scalar s => if s.isEmpty then some fun _ => none else none

/-- A field that must be there. -/
def required? {α : Type} (read : Document → Option α) (field : Option Document) : Option α :=
  field.bind read

/-- A field that has a default. -/
def withDefault? {α : Type} (default : α) (read : Document → Option α) (field : Option Document) :
    Option α :=
  match field with
  | none => some default
  | some d => read d

end Document

namespace Json

mutual

/-- A JSON value as a document. -/
def document : Json → Document
  | null => .scalar { null? := some true }
  | bool b => .scalar { truth? := some b }
  | whole n => .scalar { natural? := if 0 ≤ n then some n.toNat else none }
  | fraction _ => .scalar {}
  | text s => .scalar { text? := some s }
  | unpaired => .scalar {}
  | array items => .list true (documents items)
  | object members => .record (memberDocuments members)

def documents : List Json → List Document
  | [] => []
  | j :: js => document j :: documents js

def memberDocuments : List (String × Json) → List (String × Document)
  | [] => []
  | (name, j) :: ms => (name, document j) :: memberDocuments ms

end

end Json
end ModuleClosure
