/-!
# JSON values

A value keeps the order of its members and repeated names. Text may be written with escapes that
name half of a surrogate pair; such a text is no text, and a value that consists of it, or has it
as a member's name, is `unpaired`.
-/
namespace ModuleClosure

inductive Json
  | null
  | bool (b : Bool)
  | whole (n : Int)
  /-- A number written with a fraction or an exponent, or minus zero. -/
  | fraction (written : String)
  | text (s : String)
  | unpaired
  | array (items : List Json)
  | object (members : List (String × Json))

namespace Json

def natural (n : Nat) : Json := whole n

def textOrNull : Option String → Json
  | none => null
  | some s => text s

def texts (ss : List String) : Json := array (ss.map text)

/-- An object whose values are texts. -/
def textObject (members : List (String × String)) : Json :=
  object (members.map fun m => (m.1, text m.2))

/-- The last member of a name. -/
def member? (name : String) : Json → Option Json
  | object members => members.reverse.lookup name
  | _ => none

end Json
end ModuleClosure
