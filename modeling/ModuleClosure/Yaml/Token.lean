/-!
# Tokens of YAML

What the marks and scalars of a text are, with blocks that only indentation shows opened and closed
by tokens of their own.
-/
namespace ModuleClosure.Yaml

/-- How a scalar is written. -/
inductive Style
  | plain
  | quoted
  /-- Indented lines whose breaks are kept. -/
  | literal
  /-- Indented lines whose breaks are folded. -/
  | folded
deriving DecidableEq

inductive Directive
  | version (major minor : Nat)
  | handle (name stem : String)

inductive Token
  | directive (d : Directive)
  | documentStart
  | documentEnd
  | blockList
  | blockMapping
  | blockEnd
  | openList
  | closeList
  | openMapping
  | closeMapping
  | dash
  | comma
  /-- What follows is the name of a member. -/
  | key
  /-- What follows is the value of a member. -/
  | colon
  | reference (name : String)
  | anchor (name : String)
  | tag (handle suffix : String)
  | scalar (text : String) (style : Style)

end ModuleClosure.Yaml
