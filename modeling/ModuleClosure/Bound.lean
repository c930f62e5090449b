import ModuleClosure.Version

/-!
# Version bounds

A bound is a comparison with a version. It is written `(>= 2.4)` and read from the text between
the parentheses.
-/
namespace ModuleClosure
open Text

inductive Comparison
  | atLeast
  | atMost
  | above
  | below
  | equal
deriving DecidableEq, Repr

namespace Comparison

def symbol : Comparison → String
  | atLeast => ">="
  | atMost => "<="
  | above => ">"
  | below => "<"
  | equal => "="

/-- Equality may be written with one sign or two. -/
def ofText? (text : String) : Option Comparison :=
  if text = ">=" then some atLeast
  else if text = "<=" then some atMost
  else if text = ">" then some above
  else if text = "<" then some below
  else if text = "=" ∨ text = "==" then some equal
  else none

/-- Whether a version that stands so to the bound's version is accepted. -/
def accepts : Comparison → Ordering → Bool
  | atLeast, o => o != .lt
  | atMost, o => o != .gt
  | above, o => o == .gt
  | below, o => o == .lt
  | equal, o => o == .eq

theorem ofText?_symbol (c : Comparison) : ofText? c.symbol = some c := by
  cases c <;> decide

end Comparison

structure Bound where
  comparison : Comparison
  version : String
deriving DecidableEq, Repr

namespace Bound

def text (b : Bound) : String := "(" ++ b.comparison.symbol ++ " " ++ b.version ++ ")"

/-- Whether a version meets the bound; the version is read before the bound's own. -/
def admits (b : Bound) (version : String) : Except Version.Fault Bool := do
  let actual ← Version.read version
  let required ← Version.read b.version
  return b.comparison.accepts (compare actual required)

/-- The comparison signs in the order in which they are tried. -/
def signs : List (List Char × Comparison) :=
  [(['>', '='], .atLeast), (['<', '='], .atMost), (['=', '='], .equal), (['='], .equal),
    (['>'], .above), (['<'], .below)]

/-- The version behind a sign, in a text without blanks at its ends: one word. -/
def versionAfter? (sign text : List Char) : Option (List Char) :=
  (after? sign text).bind fun rest =>
    let version := trimStart rest
    if version = [] ∨ version.any isBlank then none else some version

/-- Reads a bound without its parentheses. A sign that leaves no version behind it gives way to a
shorter one. -/
def ofText? (text : List Char) : Option Bound :=
  signs.findSome? fun sign =>
    (versionAfter? sign.1 (trim text)).map fun version => ⟨sign.2, String.ofList version⟩

end Bound
end ModuleClosure
