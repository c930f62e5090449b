import ModuleClosure.Yaml.Block
import ModuleClosure.Yaml.Label
import ModuleClosure.Yaml.Scalar

/-!
# From glyphs to tokens

A name of a member shows only by the colon behind it, so the place where one may have started is
kept as a candidate, and the tokens that a name needs are put in there once the colon comes. A name
stands on one line and has its colon within 1024 octets. Outside brackets, a block ends where
something stands further to the left than its entries.
-/
namespace ModuleClosure.Yaml

/-- A place where the name of a member may have started. -/
structure Candidate where
  /-- How many tokens stand before it. -/
  position : Nat
  place : Glyph
  /-- In the column of a block, nothing but a name may start. -/
  isRequired : Bool

/-- Whether a colon at a place comes too late for a candidate. -/
def Candidate.isPast (c : Candidate) (g : Glyph) : Bool :=
  c.place.line < g.line || c.place.index + 1024 < g.index

/-- What is known between two tokens. -/
structure Lexer where
  tokens : Array Token := #[]
  /-- The columns of the open blocks, innermost first. -/
  columns : List Nat := []
  candidate : Option Candidate := none
  /-- The candidates outside each of the open brackets, innermost first. -/
  outer : List (Option Candidate) := []
  /-- Whether a name or the entry of a block may start here. -/
  isFresh : Bool := true

namespace Lexer

def inFlow (l : Lexer) : Bool := !l.outer.isEmpty

/-- The first column of what stands inside the innermost block. -/
def floor (l : Lexer) : Nat :=
  match l.columns with
  | [] => 0
  | column :: _ => column + 1

def push (l : Lexer) (t : Token) : Lexer := { l with tokens := l.tokens.push t }

/-- Opens a block in a column, unless one is open there. Its token takes the given position. -/
def opened (l : Lexer) (column position : Nat) (t : Token) : Lexer :=
  if l.inFlow || column < l.floor then l
  else
    { l with
      columns := column :: l.columns
      tokens := l.tokens.insertIdxIfInBounds position t }

/-- Closes the innermost blocks whose columns are of a kind. -/
def closed (l : Lexer) (ends : Nat → Bool) : Lexer :=
  if l.inFlow then l
  else
    { l with
      columns := l.columns.dropWhile ends
      tokens := l.tokens ++ (l.columns.takeWhile ends).map fun _ => Token.blockEnd }

/-- Gives up the candidate. -/
def withoutCandidate? (l : Lexer) : Option Lexer :=
  if l.candidate.any (·.isRequired) then none else some { l with candidate := none }

/-- Gives up the candidates that a place is too late for. -/
def pruned? (l : Lexer) (g : Glyph) : Option Lexer :=
  if (l.candidate :: l.outer).any (·.any fun c => c.isPast g && c.isRequired) then none
  else
    some { l with
      candidate := l.candidate.filter (!·.isPast g)
      outer := l.outer.map (·.filter (!·.isPast g)) }

/-- Begins something that may be a name. No other name starts right behind it. -/
def begun? (l : Lexer) (g : Glyph) : Option Lexer :=
  if l.isFresh then
    l.withoutCandidate?.map fun l =>
      { l with
        candidate := some ⟨l.tokens.size, g, !l.inFlow && l.columns.head? == some g.column⟩
        isFresh := false }
  else some l

/-- Begins an entry of a block. -/
def entered? (l : Lexer) (g : Glyph) (t : Token) : Option Lexer :=
  if l.inFlow then some l
  else if l.isFresh then some (l.opened g.column l.tokens.size t)
  else none

/-- Turns the candidate into the name of a member; without one, the name is left out. -/
def named? (l : Lexer) (g : Glyph) : Option Lexer :=
  match l.candidate with
  | some c =>
    let l := { l with tokens := l.tokens.insertIdxIfInBounds c.position .key }
    let l := l.opened c.place.column c.position .blockMapping
    some { l with candidate := none, isFresh := false }
  | none => (l.entered? g .blockMapping).map fun l => { l with isFresh := !l.inFlow }

/-- The token that starts at the glyph `g`, which `r` follows. -/
def token? (l : Lexer) (g : Glyph) (r : List Glyph) : Option (Lexer × List Glyph) := do
  let c := g.char
  if g.column == 0 && c == '%' then
    let l ← (l.closed fun _ => true).withoutCandidate?
    let (d, r) ← directive? r
    return ({ l with isFresh := false }.push (.directive d), r)
  else if atSeparator (g :: r) then
    let l ← (l.closed fun _ => true).withoutCandidate?
    let t : Token := if c = '-' then .documentStart else .documentEnd
    return ({ l with isFresh := false }.push t, r.drop 2)
  else if c = '[' ∨ c = '\x7b' then
    let l ← l.begun? g
    let l := l.push (if c = '[' then .openList else .openMapping)
    return ({ l with candidate := none, outer := l.candidate :: l.outer, isFresh := true }, r)
  else if c = ']' ∨ c = '\x7d' then
    let l ← l.withoutCandidate?
    let l := l.push (if c = ']' then .closeList else .closeMapping)
    let candidate := l.outer.headD none
    return ({ l with candidate, outer := l.outer.tail, isFresh := false }, r)
  else if c = ',' then
    let l ← l.withoutCandidate?
    return ({ l with isFresh := true }.push .comma, r)
  else if c = '-' ∧ startsGap r then
    let l ← (← l.entered? g .blockList).withoutCandidate?
    return ({ l with isFresh := true }.push .dash, r)
  else if c = '?' ∧ (l.inFlow ∨ startsGap r) then
    let l ← (← l.entered? g .blockMapping).withoutCandidate?
    return ({ l with isFresh := !l.inFlow }.push .key, r)
  else if c = ':' ∧ (l.inFlow ∨ startsGap r) then
    return ((← l.named? g).push .colon, r)
  else if c = '*' ∨ c = '&' then
    let l ← l.begun? g
    let (name, r) ← anchorName? r
    return (l.push (if c = '*' then .reference name else .anchor name), r)
  else if c = '!' then
    let l ← l.begun? g
    let (handle, suffix, r) ← tag? l.inFlow r
    return (l.push (.tag handle suffix), r)
  else if (c = '|' ∨ c = '>') ∧ !l.inFlow then
    let l ← l.withoutCandidate?
    let style : Style := if c = '|' then .literal else .folded
    let (text, r) ← blockScalar? style l.floor r
    return ({ l with isFresh := true }.push (.scalar (String.ofList text) style), r)
  else if c = '\'' ∨ c = '"' then
    let l ← l.begun? g
    let (text, r) ← if c = '"' then doubleQuoted? (.text {}) r else singleQuoted? {} r
    return (l.push (.scalar (String.ofList text) .quoted), r)
  else if isReserved c ∨ isSpace c then none
  else
    let l ← l.begun? g
    let (text, isBroken, r) ← plain? l.inFlow l.floor {} (g :: r)
    return ({ l with isFresh := isBroken }.push (.scalar (String.ofList text) .plain), r)

/-- Passes over spaces, line breaks and comments, to a place where a name may start or not. A tab
counts as a space where no block can start, and a line may start with a byte order mark. -/
def passGap (flow comment isFresh : Bool) : List Glyph → Bool × List Glyph
  | [] => (isFresh, [])
  | g :: r =>
    if isBreak g.char then passGap flow false (isFresh || !flow) r
    else if comment || g.char == '#' then passGap flow true isFresh r
    else if g.char == ' ' || (g.char == '\t' && (flow || !isFresh)) ||
        (g.char == '\uFEFF' && g.column == 0) then passGap flow false isFresh r
    else (isFresh, g :: r)

/-- All tokens. Each takes a glyph or more, and spends one unit of fuel. -/
def tokensFrom? (l : Lexer) : Nat → List Glyph → Option (List Token)
  | 0, _ => none
  | fuel + 1, s =>
    match passGap l.inFlow false l.isFresh s with
    | (_, []) => (l.closed fun _ => true).withoutCandidate?.map (·.tokens.toList)
    | (isFresh, g :: r) => do
      let l ← { l with isFresh }.pruned? g
      let (l, r) ← (l.closed (g.column < ·)).token? g r
      tokensFrom? l fuel r

end Lexer

/-- The tokens of a text. -/
def tokens? (text : String) : Option (List Token) :=
  (layout? text).bind fun s => ({} : Lexer).tokensFrom? (s.length + 1) s

end ModuleClosure.Yaml
