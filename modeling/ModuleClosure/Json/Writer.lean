import ModuleClosure.Json

/-!
# Writing JSON

The compact form has no blanks. The pretty form puts each item and member on a line of its own,
two spaces deeper than what holds it, and keeps empty arrays and objects on one line.
-/
namespace ModuleClosure.Json

def hexDigit (n : Nat) : Char := "0123456789abcdef".toList.getD n '0'

/-- A character inside a text: quotes, backslashes and control characters are escaped. -/
def writeChar (c : Char) : List Char :=
  if c = '"' then ['\\', '"']
  else if c = '\\' then ['\\', '\\']
  else if c = '\n' then ['\\', 'n']
  else if c = '\r' then ['\\', 'r']
  else if c = '\t' then ['\\', 't']
  else if c.toNat = 8 then ['\\', 'b']
  else if c.toNat = 12 then ['\\', 'f']
  else if c.toNat < 0x20 then
    ['\\', 'u', '0', '0', hexDigit (c.toNat / 16), hexDigit (c.toNat % 16)]
  else [c]

def writeText (s : String) : List Char := ['"'] ++ s.toList.flatMap writeChar ++ ['"']

/-- A value that is neither an array nor an object. -/
def writeScalar : Json → List Char
  | null => "null".toList
  | bool true => "true".toList
  | bool false => "false".toList
  | whole n => (toString n).toList
  | fraction written => written.toList
  | text s => writeText s
  | unpaired => "\"\\ud800\"".toList
  | array _ | object _ => []

mutual

def writeCompact : Json → List Char
  | array items => ['['] ++ writeItems items ++ [']']
  | object members => ['\x7b'] ++ writeMembers members ++ ['\x7d']
  | j => writeScalar j

def writeItems : List Json → List Char
  | [] => []
  | [j] => writeCompact j
  | j :: js => writeCompact j ++ [','] ++ writeItems js

def writeMembers : List (String × Json) → List Char
  | [] => []
  | [(name, j)] => writeText name ++ [':'] ++ writeCompact j
  | (name, j) :: ms => writeText name ++ [':'] ++ writeCompact j ++ [','] ++ writeMembers ms

end

def compact (j : Json) : String := String.ofList (writeCompact j)

/-- The start of a new line at a depth. -/
def lineStart (depth : Nat) : List Char := '\n' :: List.replicate (2 * depth) ' '

mutual

def writePretty (depth : Nat) : Json → List Char
  | array [] => ['[', ']']
  | array items =>
    ['['] ++ writePrettyItems (depth + 1) items ++ lineStart depth ++ [']']
  | object [] => ['\x7b', '\x7d']
  | object members =>
    ['\x7b'] ++ writePrettyMembers (depth + 1) members ++ lineStart depth ++ ['\x7d']
  | j => writeScalar j

def writePrettyItems (depth : Nat) : List Json → List Char
  | [] => []
  | [j] => lineStart depth ++ writePretty depth j
  | j :: js => lineStart depth ++ writePretty depth j ++ [','] ++ writePrettyItems depth js

def writePrettyMembers (depth : Nat) : List (String × Json) → List Char
  | [] => []
  | [(name, j)] => lineStart depth ++ writeText name ++ [':', ' '] ++ writePretty depth j
  | (name, j) :: ms =>
    lineStart depth ++ writeText name ++ [':', ' '] ++ writePretty depth j ++ [','] ++
      writePrettyMembers depth ms

end

def pretty (j : Json) : String := String.ofList (writePretty 0 j)

end ModuleClosure.Json
