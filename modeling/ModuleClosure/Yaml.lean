import ModuleClosure.Document
import ModuleClosure.Json.Reader
import ModuleClosure.Yaml.Token

/-!
# YAML values

What a plain scalar means is left open until a field is read. A value may have a name and stand in
other places by that name, also inside itself; there it is kept as a number.
-/
namespace ModuleClosure

inductive Yaml
  | scalar (text : String) (style : Yaml.Style) (tag : Option String)
  | list (items : List Yaml)
  | mapping (members : List (Yaml × Yaml))
  /-- The value that was given this number. -/
  | reference (number : Nat)

namespace Yaml

/-- The scalar that stands where nothing is written. -/
def nothing : Yaml := scalar "" .plain none

def truth? (text : String) : Option Bool :=
  if text ∈ ["true", "True", "TRUE"] then some true
  else if text ∈ ["false", "False", "FALSE"] then some false
  else none

def isNullText (text : String) : Bool := text ∈ ["~", "null", "Null", "NULL"]

/-- The digits of a number in a base, as a value; there is at least one. -/
def inBase? (base : Nat) (digits : List Char) : Option Nat :=
  if digits = [] then none
  else digits.foldlM (fun n c =>
    (Json.hexValue? c).bind fun d => if d < base then some (n * base + d) else none) 0

/-- A number behind the mark of its base. -/
def marked? (mark : Char) (base : Nat) (s : List Char) : Option Nat :=
  match s with
  | '0' :: m :: digits => if m = mark then inBase? base digits else none
  | _ => none

/-- A whole number without a minus sign. In base ten no zero stands before other digits. -/
def natural? (text : String) : Option Nat :=
  let s := match text.toList with
    | '+' :: r => r
    | s => s
  let decimal := match s with
    | '0' :: _ :: _ => none
    | _ => inBase? 10 s
  ((marked? 'x' 16 s).or (marked? 'o' 8 s)).or ((marked? 'b' 2 s).or decimal)

/-- A tag of the schema that all values share. -/
def coreTag (name : String) : String := "tag:yaml.org,2002:" ++ name

/-- The readings of a scalar; one that is not plain is a text, unless its lines are tagged as
something else. -/
def readings (text : String) (style : Style) (tag : Option String) : Scalar :=
  let isOpen (name : String) := style == .plain || (style == .literal && tag == some (coreTag name))
  { text? := some text
    truth? := if isOpen "bool" then truth? text else none
    natural? := if isOpen "int" then natural? text else none
    null? := if style != .plain then some false
      else
        match tag with
        | none => some (text = "" || isNullText text)
        | some tag =>
          if tag ≠ coreTag "null" then some false else if isNullText text then some true else none
    isEmpty := style == .plain && text = "" }

/-- A value that no reader of typed fields accepts. -/
def unreadable : Document := .list false []

/-- The name of a member. -/
def name? (named : Nat → Option Yaml) : Yaml → Option String
  | scalar text _ _ => some text
  | reference n =>
    match named n with
    | some (scalar text _ _) => some text
    | _ => none
  | _ => none

/-- A YAML value as a document, where `named` gives the values that aliases stand for. What is
nested deeper than `depth` is not looked into. -/
def document (named : Nat → Option Yaml) : Nat → Yaml → Document
  | depth, y =>
    let y := match y with
      | reference n => (named n).getD nothing
      | y => y
    match depth, y with
    | _, scalar text style tag => .scalar (readings text style tag)
    | depth + 1, list items => .list false (items.map (document named depth))
    | depth + 1, mapping members =>
      match members.mapM fun (name, _) => name? named name with
      | some names => .record (names.zip (members.map fun (_, y) => document named depth y))
      | none => unreadable
    | _, _ => unreadable

end Yaml
end ModuleClosure
