/-!
# Characters and their places

A text is laid out as its characters with line, column and index. Most line breaks become a line
feed; the separators of lines and of paragraphs stay as they are, so that a scalar can keep them.
-/
namespace ModuleClosure.Yaml

/-- A character and where it stands. -/
structure Glyph where
  char : Char
  line : Nat
  column : Nat
  /-- How many octets of the text stand before it. -/
  index : Nat

/-- Whether a character may stand in a text at all. -/
def isAllowed (c : Char) : Bool :=
  let n := c.toNat
  n == 9 || n == 10 || n == 13 || (0x20 ≤ n && n ≤ 0x7E) || n == 0x85 ||
    (0xA0 ≤ n && n ≤ 0xD7FF) || (0xE000 ≤ n && n ≤ 0xFFFD) || 0x10000 ≤ n

def isSpace (c : Char) : Bool := c == ' ' || c == '\t'

/-- The line breaks of a laid out text. -/
def isBreak (c : Char) : Bool := c == '\n' || c == '\u2028' || c == '\u2029'

def isBlank (c : Char) : Bool := isSpace c || isBreak c

/-- Lays out what follows a place. -/
def layoutFrom (line column index : Nat) : List Char → List Glyph
  | [] => []
  | '\r' :: '\n' :: r => ⟨'\n', line, column, index⟩ :: layoutFrom (line + 1) 0 (index + 2) r
  | c :: r =>
    let behind := index + c.utf8Size
    let c := if c = '\r' ∨ c = '\u0085' then '\n' else c
    let rest := if isBreak c then layoutFrom (line + 1) 0 behind r
      else layoutFrom line (column + 1) behind r
    ⟨c, line, column, index⟩ :: rest

/-- The layout of a text, if all its characters are allowed. -/
def layout? (text : String) : Option (List Glyph) :=
  if text.toList.all isAllowed then some (layoutFrom 0 0 0 text.toList) else none

/-- Whether a text goes on with a space or a line break, or ends. -/
def startsGap : List Glyph → Bool
  | [] => true
  | g :: _ => isBlank g.char

/-- Whether a line that separates documents starts here. -/
def atSeparator : List Glyph → Bool
  | a :: b :: c :: r =>
    a.column == 0 && (a.char == '-' || a.char == '.') && b.char == a.char && c.char == a.char &&
      startsGap r
  | _ => false

/-- Passes over spaces and a comment to the next line. -/
def nextLine? (comment : Bool) : List Glyph → Option (List Glyph)
  | [] => some []
  | g :: r =>
    if isBreak g.char then some r
    else if comment || g.char == '#' then nextLine? true r
    else if isSpace g.char then nextLine? false r
    else none

end ModuleClosure.Yaml
