import ModuleClosure.Json.Reader
import ModuleClosure.Yaml.Layout

/-!
# Plain and quoted scalars

Line breaks inside a scalar are folded: a single line feed becomes a space, and of several breaks
all but a line feed in front remain.
-/
namespace ModuleClosure.Yaml

/-- The spaces and line breaks that have been passed since the last other character, the latest
first. -/
structure Gap where
  spaces : List Char := []
  breaks : List Char := []
  /-- The first line break was escaped and stands for nothing. -/
  joined : Bool := false

namespace Gap

def isBroken (gap : Gap) : Bool := gap.joined || !gap.breaks.isEmpty

def isEmpty (gap : Gap) : Bool := gap.spaces.isEmpty && !gap.isBroken

/-- Spaces count only if no line break stands before them. -/
def add (gap : Gap) (c : Char) : Gap :=
  if isBreak c then { gap with breaks := c :: gap.breaks }
  else if gap.isBroken then gap
  else { gap with spaces := c :: gap.spaces }

/-- What a gap between two characters becomes. -/
def text (gap : Gap) : List Char :=
  if gap.joined then gap.breaks.reverse
  else
    match gap.breaks.reverse with
    | [] => gap.spaces.reverse
    | ['\n'] => [' ']
    | '\n' :: more => more
    | breaks => breaks

end Gap

def isFlowMark (c : Char) : Bool :=
  c == ',' || c == '[' || c == ']' || c == '\x7b' || c == '\x7d'

/-- The characters that no plain scalar starts with, whatever follows them. -/
def isReserved (c : Char) : Bool :=
  isFlowMark c || "#&*!|>'\"%@`".toList.contains c

/-- Whether a mark of a collection in brackets, or the mark of a name, comes next. -/
def startsFlowMark : List Glyph → Bool
  | [] => false
  | g :: _ => isFlowMark g.char || g.char == '?'

/-- The rest of a plain scalar behind a gap: its text, whether a line break follows it, and the
rest of the glyphs. In a block its lines start at the column `floor` or further. -/
def plain? (flow : Bool) (floor : Nat) (gap : Gap) :
    List Glyph → Option (List Char × Bool × List Glyph)
  | [] => some ([], gap.isBroken, [])
  | g :: r =>
    if isBlank g.char then
      if gap.isBroken && g.char == '\t' && g.column < floor then none
      else plain? flow floor (gap.add g.char) r
    else if !gap.isEmpty && (g.char == '#' || (!flow && g.column < floor) || atSeparator (g :: r))
      then some ([], gap.isBroken, g :: r)
    else if flow && g.char == ':' && startsFlowMark r then none
    else if (g.char == ':' && startsGap r) || (flow && isFlowMark g.char) then
      some ([], gap.isBroken, g :: r)
    else (plain? flow floor {} r).map fun (cs, rest) => (gap.text ++ g.char :: cs, rest)

/-- The rest of a text between apostrophes; two of them stand for one. -/
def singleQuoted? (gap : Gap) : List Glyph → Option (List Char × List Glyph)
  | [] => none
  | [g] => if g.char = '\'' then some (gap.text, []) else none
  | g :: h :: r =>
    if isBlank g.char then singleQuoted? (gap.add g.char) (h :: r)
    else if atSeparator (g :: h :: r) then none
    else if g.char ≠ '\'' then
      (singleQuoted? {} (h :: r)).map fun (cs, rest) => (gap.text ++ g.char :: cs, rest)
    else if h.char = '\'' then
      (singleQuoted? {} r).map fun (cs, rest) => (gap.text ++ '\'' :: cs, rest)
    else some (gap.text, h :: r)

/-- What a letter behind a backslash stands for. -/
def escapes : List (Char × Char) :=
  [('0', '\x00'), ('a', '\x07'), ('b', '\x08'), ('t', '\t'), ('\t', '\t'), ('n', '\n'),
    ('v', '\x0b'), ('f', '\x0c'), ('r', '\r'), ('e', '\x1b'), (' ', ' '), ('"', '"'), ('/', '/'),
    ('\\', '\\'), ('N', '\u0085'), ('_', '\u00a0'), ('L', '\u2028'), ('P', '\u2029')]

/-- How many hexadecimal digits follow a letter behind a backslash. -/
def escapeWidth? (c : Char) : Option Nat :=
  if c = 'x' then some 2 else if c = 'u' then some 4 else if c = 'U' then some 8 else none

/-- Where a reader of a text between quotation marks stands. -/
inductive Quote
  | text (gap : Gap)
  | escape
  | code (missing value : Nat)

/-- Reads one glyph, which `r` follows: the characters it gives, and the next state or the end. -/
def Quote.step (g : Glyph) (r : List Glyph) : Quote → Option (List Char × Option Quote)
  | text gap =>
    if isBlank g.char then some ([], some (text (gap.add g.char)))
    else if atSeparator (g :: r) then none
    else if g.char = '"' then some (gap.text, none)
    else if g.char = '\\' then some (gap.text, some escape)
    else some (gap.text ++ [g.char], some (text {}))
  | escape =>
    if isBreak g.char then some ([], some (text { joined := true }))
    else
      match escapes.lookup g.char, escapeWidth? g.char with
      | some d, _ => some ([d], some (text {}))
      | none, some width => some ([], some (code width 0))
      | none, none => none
  | code missing value =>
    match Json.hexValue? g.char with
    | none => none
    | some d =>
      let value := value * 16 + d
      if 1 < missing then some ([], some (code (missing - 1) value))
      else if value.isValidChar then some ([Char.ofNat value], some (text {}))
      else none

/-- The rest of a text between quotation marks. -/
def doubleQuoted? (q : Quote) : List Glyph → Option (List Char × List Glyph)
  | [] => none
  | g :: r =>
    match q.step g r with
    | none => none
    | some (cs, none) => some (cs, r)
    | some (cs, some q) => (doubleQuoted? q r).map fun (more, rest) => (cs ++ more, rest)

end ModuleClosure.Yaml
