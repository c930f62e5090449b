import ModuleClosure.Text.Graphic

/-!
# Quoted characters

How a message shows a single character: between apostrophes, as itself when that is readable and
as an escape otherwise.
-/
namespace ModuleClosure.Text

/-- A backslash, the letter `u` and the number in braces, in lower-case hexadecimal. -/
def codeEscape (c : Char) : List Char :=
  ['\\', 'u', '\x7b'] ++ Nat.toDigits 16 c.toNat ++ ['\x7d']

def escapeChar (c : Char) : List Char :=
  if c = '\x00' then ['\\', '0']
  else if c = '\t' then ['\\', 't']
  else if c = '\r' then ['\\', 'r']
  else if c = '\n' then ['\\', 'n']
  else if c = '\'' || c = '\\' then ['\\', c]
  else if isGraphic c then [c]
  else codeEscape c

/-- The character between apostrophes. -/
def quoteChar (c : Char) : String := String.ofList (['\''] ++ escapeChar c ++ ['\''])

end ModuleClosure.Text
