import ModuleClosure.Description
import ModuleClosure.Document

/-!
# Descriptions as JSON

A description is an object. Version, maintainer and bounds are left out when there are none, and a
reader takes every field but the name to be absent or empty when it is left out.
-/
namespace ModuleClosure

def Bound.toJson (b : Bound) : Json :=
  .object [("op", .text b.comparison.symbol), ("version", .text b.version)]

def Comparison.all : List Comparison := [.atLeast, .atMost, .above, .below, .equal]

/-- A comparison by its symbol; here equality has one sign only. -/
def Comparison.ofSymbol? (symbol : String) : Option Comparison :=
  all.find? fun c => c.symbol == symbol

/-- A comparison is its symbol, or an object with the symbol as the only name and no value. -/
def Comparison.ofDocument? : Document → Option Comparison
  | .record [(symbol, .scalar s)] => if s.null? = some true then ofSymbol? symbol else none
  | d => d.text?.bind ofSymbol?

def Bound.ofDocument? (d : Document) : Option Bound := do
  let field ← d.fields? ["op", "version"]
  let comparison ← Document.required? Comparison.ofDocument? (field "op")
  let version ← Document.required? Document.text? (field "version")
  return ⟨comparison, version⟩

namespace Description

/-- A member that is left out when it has no value. -/
def optionalMember (name : String) : Option String → List (String × Json)
  | none => []
  | some s => [(name, .text s)]

def boundsMember (bounds : NameMap Bound) : List (String × Json) :=
  if bounds.isEmpty then []
  else [("constraints", .object (bounds.toList.map fun e => (e.1, e.2.toJson)))]

def toJson (d : Description) : Json :=
  .object ([("name", .text d.name)] ++ optionalMember "version" d.version ++
    optionalMember "maintainer" d.maintainer ++
    [("whitespace_hook", .bool d.whitespaceHook), ("depends", .texts d.depends.toList),
      ("suggests", .texts d.suggests.toList)] ++
    boundsMember d.bounds)

def fieldNames : List String :=
  ["name", "version", "maintainer", "whitespace_hook", "depends", "suggests", "constraints"]

def nameSet? (d : Document) : Option NameSet := d.texts?.map .ofNames

def boundMap? (d : Document) : Option (NameMap Bound) :=
  (d.entries? Bound.ofDocument?).map .ofEntries

def ofDocument? (d : Document) : Option Description := do
  let field ← d.fields? fieldNames
  let name ← Document.required? Document.text? (field "name")
  let version ← Document.withDefault? none (Document.optional? Document.text?) (field "version")
  let maintainer ←
    Document.withDefault? none (Document.optional? Document.text?) (field "maintainer")
  let whitespaceHook ←
    Document.withDefault? false Document.truth? (field "whitespace_hook")
  let depends ← Document.withDefault? ∅ nameSet? (field "depends")
  let suggests ← Document.withDefault? ∅ nameSet? (field "suggests")
  let bounds ← Document.withDefault? ∅ boundMap? (field "constraints")
  return { name, version, maintainer, whitespaceHook, depends, suggests, bounds }

def ofJson? (j : Json) : Option Description := ofDocument? j.document

end Description
end ModuleClosure
