import ModuleClosure.Yaml.Layout
import ModuleClosure.Yaml.Token

/-!
# Block scalars

A block scalar is a header, and then lines that are indented alike. The breaks behind its last line
are stripped, clipped to one, or kept.
-/
namespace ModuleClosure.Yaml

/-- What becomes of the line breaks at the end of a block scalar. -/
inductive Chomp
  | strip
  | clip
  | keep

/-- The indentation that a header asks for beyond that of the block around, how the scalar ends,
and what follows on the line. -/
def blockHeader? (s : List Glyph) : Option (Nat × Chomp × List Glyph) :=
  let chomp (s : List Glyph) : Chomp × List Glyph :=
    match s with
    | g :: r => if g.char = '-' then (.strip, r) else if g.char = '+' then (.keep, r)
      else (.clip, s)
    | [] => (.clip, [])
  let width (s : List Glyph) : Option (Nat × List Glyph) :=
    match s with
    | g :: r => if !g.char.isDigit then some (0, s) else if g.char = '0' then none
      else some (g.char.toNat - '0'.toNat, r)
    | [] => some (0, [])
  match chomp s with
  | (.clip, s) => (width s).map fun (n, s) => (n, chomp s)
  | (c, s) => (width s).map fun (n, s) => (n, c, s)

/-- The line breaks before the first line that is not empty, and the greatest column passed. No tab
stands before it. -/
def leadingBreaks? (most : Nat) : List Glyph → Option (List Char × Nat × List Glyph)
  | [] => some ([], most, [])
  | g :: r =>
    let most := max most g.column
    if g.char = ' ' then leadingBreaks? most r
    else if g.char = '\t' then none
    else if isBreak g.char then
      (leadingBreaks? most r).map fun (breaks, rest) => (g.char :: breaks, rest)
    else some ([], most, g :: r)

/-- Where a reader of indented lines stands. -/
inductive Lines
  /-- In a line; `spaced` if it starts with a space. -/
  | inside (spaced : Bool)
  /-- Behind a line, its break and the breaks that follow. -/
  | behind (spaced : Bool) (first more : List Char)

/-- What stands for the breaks between two lines. A single line feed folds to a space, unless a
line at its side starts with a space. -/
def lineGap (style : Style) (spaced : Bool) (first more : List Char) : List Char :=
  if style = .folded ∧ first = ['\n'] ∧ !spaced then (if more = [] then [' '] else more)
  else first ++ more

def Chomp.tail (chomp : Chomp) (first more : List Char) : List Char :=
  match chomp with
  | strip => []
  | clip => first
  | keep => first ++ more

/-- The rest of the lines whose text starts at the column `indent`. -/
def blockLines? (style : Style) (indent : Nat) (chomp : Chomp) :
    Lines → List Glyph → Option (List Char × List Glyph)
  | .inside _, [] => some ([], [])
  | .inside spaced, g :: r =>
    if isBreak g.char then blockLines? style indent chomp (.behind spaced [g.char] []) r
    else (blockLines? style indent chomp (.inside spaced) r).map fun (cs, rest) =>
      (g.char :: cs, rest)
  | .behind _ first more, [] => some (chomp.tail first more, [])
  | .behind spaced first more, g :: r =>
    if g.column < indent && g.char == ' ' then
      blockLines? style indent chomp (.behind spaced first more) r
    else if g.column < indent && g.char == '\t' then none
    else if isBreak g.char then
      blockLines? style indent chomp (.behind spaced first (more ++ [g.char])) r
    else if g.column = indent then
      let here := isSpace g.char
      (blockLines? style indent chomp (.inside here) r).map fun (cs, rest) =>
        (lineGap style (spaced || here) first more ++ g.char :: cs, rest)
    else some (chomp.tail first more, g :: r)

/-- A block scalar behind its mark, in a block whose content starts at the column `floor`. -/
def blockScalar? (style : Style) (floor : Nat) (s : List Glyph) :
    Option (List Char × List Glyph) := do
  let (width, chomp, s) ← blockHeader? s
  let s ← nextLine? false s
  if width = 0 then
    let (breaks, most, s) ← leadingBreaks? 0 s
    blockLines? style (max most (max floor 1)) chomp (.behind false [] breaks) s
  else blockLines? style (floor - 1 + width) chomp (.behind false [] []) s

end ModuleClosure.Yaml
