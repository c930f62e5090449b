import ModuleClosure.Json.Reader
import ModuleClosure.Text.Alphanumeric
import ModuleClosure.Text.Blank

/-!
# Patterns

Which texts are patterns that the value of a field may be matched against. A pattern is checked and
never matched here, so all that is kept of it is how deep it is nested and whether it asks for the
boundary of a word. A repetition with counts is no pattern, since its closing brace would end the
field.
-/
namespace ModuleClosure.Logging
open Text

/-- Why a text is no pattern. -/
inductive PatternFault
  | malformed
  /-- Boundaries of words are only found among the letters of ASCII. -/
  | boundary
deriving DecidableEq, Repr

def PatternFault.message : PatternFault → String
  | malformed => "error building NFA"
  | boundary =>
    "unsupported regex feature for DFAs: cannot build DFAs for regexes with Unicode word " ++
      "boundaries; switch to ASCII word boundaries, or heuristically enable Unicode word " ++
      "boundaries or use a different regex engine"

namespace Pattern

/-- How a part of a pattern is read. -/
structure Mode where
  /-- Blanks and comments are passed over. -/
  spaced : Bool := false
  unicode : Bool := true
  caseless : Bool := false

/-- Things that stand side by side. -/
structure Row where
  count : Nat := 0
  deepest : Nat := 0

def Row.add (row : Row) (depth : Nat) : Row := ⟨row.count + 1, max row.deepest depth⟩

/-- Several things are nested once more than the deepest of them. -/
def Row.depth (row : Row) : Nat := if row.count ≤ 1 then row.deepest else row.deepest + 1

def passBlanks (comment : Bool) : List Char → List Char
  | [] => []
  | c :: r =>
    if comment then passBlanks (c != '\n') r
    else if isBlank c then passBlanks false r
    else if c = '#' then passBlanks true r
    else c :: r

def Mode.pass (m : Mode) (s : List Char) : List Char := if m.spaced then passBlanks false s else s

/-- The character that comes next, behind blanks and the mark of a comment. -/
def Mode.glance? (m : Mode) (s : List Char) : Option Char :=
  if m.spaced then
    match s.dropWhile isBlank with
    | '#' :: r => (r.dropWhile isBlank).head?
    | s => s.head?
  else s.head?

/-! ## Escapes -/

/-- What a backslash and what follows it stand for. -/
inductive Item
  | char (c : Char)
  | set
  | anchor
  | boundary

/-- A number of so many hexadecimal digits. -/
def hexNumber? (m : Mode) (value : Nat) : Nat → List Char → Option (Nat × List Char)
  | 0, s => some (value, s)
  | n + 1, s =>
    match m.pass s with
    | c :: r => (Json.hexValue? c).bind fun d => hexNumber? m (16 * value + d) n r
    | [] => none

/-- How many hexadecimal digits follow a letter. -/
def hexWidth? (c : Char) : Option Nat :=
  if c = 'x' then some 2 else if c = 'u' then some 4 else if c = 'U' then some 8 else none

def namedChars : List (Char × Char) :=
  [('a', '\x07'), ('f', '\x0c'), ('t', '\t'), ('n', '\n'), ('r', '\r'), ('v', '\x0b')]

/-- The classes of characters that one letter names. -/
def isCategory (c : Char) : Bool := "CLMNPSZ".toList.contains c.toUpper

/-- Without Unicode, no set holds what is not ASCII. -/
def letterSet? (m : Mode) (c : Char) : Option Item :=
  if c.isUpper && !m.unicode then none else some .set

/-- What follows a backslash. -/
def escape? (m : Mode) : List Char → Option (Item × List Char)
  | [] => none
  | c :: r =>
    match hexWidth? c, namedChars.lookup c with
    | some width, _ => do
      let (n, r) ← hexNumber? m 0 width r
      if !n.isValidChar ∨ (c = 'x' ∧ !m.unicode ∧ 0x80 ≤ n) then none
      else some (.char (Char.ofNat n), r)
    | none, some d => some (.char d, r)
    | none, none =>
      if c = 'p' ∨ c = 'P' then
        match m.pass r with
        | d :: r => if m.unicode ∧ isCategory d then some (.set, r) else none
        | [] => none
      else if "dswDSW".toList.contains c then (letterSet? m c).map (·, r)
      else if c = 'A' ∨ c = 'z' then some (.anchor, r)
      else if "bB<>".toList.contains c then some (.boundary, r)
      else if c.isAlphanum ∨ 0x80 ≤ c.toNat then none
      else some (.char c, r)

/-! ## Sets in brackets -/

def setNames : List String :=
  ["alnum", "alpha", "ascii", "blank", "cntrl", "digit", "graph", "lower", "print", "punct",
    "space", "upper", "word", "xdigit"]

/-- The name of a set between colons, behind the first bracket: whether it is negated, and what
follows the second bracket. -/
def namedSet? : List Char → Option (Bool × List Char)
  | ':' :: s =>
    let (negated, s) := match s with
      | '^' :: r => (true, r)
      | s => (false, s)
    match s.dropWhile (· ≠ ':') with
    | ':' :: ']' :: r =>
      if String.ofList (s.takeWhile (· ≠ ':')) ∈ setNames then some (negated, r) else none
    | _ => none
  | _ => none

/-- A character or a set inside brackets. -/
def member? (m : Mode) (s : List Char) : Option (Item × List Char) := do
  let (item, r) ← match s with
    | [] => none
    | '\\' :: r => escape? m r
    | c :: r => some (.char c, r)
  match item with
  | .char c => if m.unicode ∨ c.toNat < 0x80 then some (.char c, r) else none
  | .set => some (.set, r)
  | _ => none

/-- What follows a member; behind a hyphen, the end of the range that starts with it. -/
def behindMember? (m : Mode) (first : Item) (s : List Char) : Option (List Char) :=
  match m.pass s with
  | [] => none
  | '-' :: r =>
    if m.glance? r = some ']' ∨ m.glance? r = some '-' then some ('-' :: r)
    else do
      let (last, r) ← member? m (m.pass r)
      match first, last with
      | .char a, .char b => if a ≤ b then some r else none
      | _, _ => none
  | s => some s

/-- Behind the bracket that opens a set; without Unicode, a set cannot be negated. -/
def behindBracket? (m : Mode) (s : List Char) : Option (List Char) :=
  match m.pass s with
  | '^' :: r => if m.unicode then some r else none
  | s => some s

/-- How deep a set is nested that is `row`, or `left` combined with `row`. -/
def setDepth (left : Option Nat) (row : Row) : Nat :=
  match left with
  | none => row.depth
  | some depth => 1 + max depth row.depth

/-- The rest of a set in brackets: its depth, and what follows it. Hyphens in front, and a bracket
in front that would close the set, stand for themselves. Each member spends one unit of fuel. -/
def members? (m : Mode) :
    Nat → Bool → Option Nat → Row → List Char → Option (Nat × List Char)
  | 0, _, _, _, _ => none
  | fuel + 1, isFront, left, row, s =>
    match m.pass s with
    | [] => none
    | c :: r =>
      if isFront && (c == '-' || (c == ']' && row.count == 0)) then
        members? m fuel (c == '-') left (row.add 0) r
      else if c = ']' then some (setDepth left row + 1, r)
      else if c = '[' then
        match namedSet? r with
        | some (negated, r) =>
          if negated && !m.unicode then none else members? m fuel false left (row.add 0) r
        | none => do
          let r ← behindBracket? m r
          let (depth, r) ← members? m fuel true none {} r
          members? m fuel false left (row.add depth) r
      else if (c = '&' ∨ c = '-' ∨ c = '~') ∧ r.head? = some c then
        members? m fuel false (some (setDepth left row)) {} r.tail
      else do
        let (item, r) ← member? m (c :: r)
        let r ← behindMember? m item r
        members? m fuel false left (row.add 0) r

/-! ## Groups -/

/-- An open group. -/
structure Level where
  /-- The branch that is read. -/
  row : Row := {}
  /-- The depth of what a repetition would repeat. -/
  last : Option Nat := none
  /-- The branches before. -/
  branches : Row := {}

namespace Level

def put (l : Level) (depth : Nat) : Level :=
  { l with row := l.row.add depth, last := some depth }

def depth (l : Level) : Nat := (l.branches.add l.row.depth).depth

end Level

/-- What is known between two parts of a pattern. -/
structure State where
  mode : Mode := {}
  here : Level := {}
  /-- The groups around, innermost first, each with the mode of what follows inside it. -/
  outer : List (Mode × Level) := []
  names : List (List Char) := []
  hasBoundary : Bool := false

namespace State

def put (p : State) (depth : Nat) : State := { p with here := p.here.put depth }

def enter (p : State) (mode : Mode) : State :=
  { p with mode, here := {}, outer := (p.mode, p.here) :: p.outer }

/-- Letters that change a mode, up to a colon or a closing parenthesis. -/
def flags? (on : Bool) (seen : List Char) (m : Mode) :
    List Char → Option (Mode × Bool × List Char)
  | [] => none
  | c :: r =>
    if c = ':' ∨ c = ')' then
      if seen.head? = some '-' ∨ (c = ')' ∧ seen = []) then none else some (m, c == ':', r)
    else if !"imsUuRx-".toList.contains c ∨ seen.contains c then none
    else
      let m := if c = 'x' then { m with spaced := on }
        else if c = 'u' then { m with unicode := on }
        else if c = 'i' then { m with caseless := on }
        else m
      flags? (on && c != '-') (c :: seen) m r

/-- The name of a group, up to the mark that closes it. No two groups have one name. -/
def named? (p : State) (s : List Char) : Option (State × List Char) :=
  let name := s.takeWhile (· ≠ '>')
  let isName := match name with
    | [] => false
    | c :: r => (c == '_' || isAlphabetic c) &&
        r.all fun c => c == '_' || c == '.' || c == '[' || c == ']' || isAlphanumeric c
  match s.dropWhile (· ≠ '>') with
  | _ :: r =>
    if isName && !p.names.contains name then
      some ({ p.enter p.mode with names := name :: p.names }, r)
    else none
  | [] => none

/-- What follows an opening parenthesis: a group, or a change of the mode. -/
def opened? (p : State) (s : List Char) : Option (State × List Char) :=
  match p.mode.pass s with
  | '?' :: 'P' :: '<' :: r => p.named? r
  | '?' :: '<' :: r => p.named? r
  | '?' :: r =>
    match flags? true [] p.mode r with
    | some (mode, true, r) => some (p.enter mode, r)
    | some (mode, false, r) =>
      some ({ p with mode, here := { p.here.put 0 with last := none } }, r)
    | none => none
  | s => some (p.enter p.mode, s)

def closed? (p : State) : Option State :=
  match p.outer with
  | [] => none
  | (mode, level) :: outer =>
    some { p with mode, here := level.put (p.here.depth + 1), outer }

def repeated? (p : State) : Option State :=
  p.here.last.map fun depth =>
    let row := { p.here.row with deepest := max p.here.row.deepest (depth + 1) }
    { p with here := { p.here with row, last := some (depth + 1) } }

/-- Where letters have case but not those of Unicode, only ASCII stands for itself. -/
def char? (p : State) (c : Char) : Option State :=
  if p.mode.caseless ∧ !p.mode.unicode ∧ 0x80 ≤ c.toNat then none else some (p.put 0)

/-- One part of a pattern, which `r` follows. -/
def part? (p : State) (c : Char) (r : List Char) : Option (State × List Char) :=
  match c with
  | '(' => p.opened? r
  | ')' => p.closed?.map (·, r)
  | '|' =>
    let branches := p.here.branches.add p.here.row.depth
    some ({ p with here := { branches } }, r)
  | '[' => do
    let (depth, r) ← members? p.mode (r.length + 1) true none {} (← behindBracket? p.mode r)
    return (p.put depth, r)
  | '\x7b' => none
  | '.' => if p.mode.unicode then some (p.put 0, r) else none
  | '\\' => do
    match ← escape? p.mode r with
    | (.char c, r) => return (← p.char? c, r)
    | (.boundary, r) =>
      return ({ p.put 0 with hasBoundary := p.hasBoundary || p.mode.unicode }, r)
    | (_, r) => return (p.put 0, r)
  | _ =>
    if c = '*' ∨ c = '+' ∨ c = '?' then
      p.repeated?.map (·, if r.head? = some '?' then r.tail else r)
    else (p.char? c).map (·, r)

/-- All parts. Each takes a character or more, and spends one unit of fuel. -/
def all? (p : State) : Nat → List Char → Option State
  | 0, _ => none
  | fuel + 1, s =>
    match p.mode.pass s with
    | [] => if p.outer.isEmpty then some p else none
    | c :: r => (p.part? c r).bind fun (p, r) => all? p fuel r

end State

/-- How deep a pattern may be nested. -/
def depthLimit : Nat := 250

def check (s : List Char) : Except PatternFault Unit :=
  match State.all? {} (s.length + 1) s with
  | none => .error .malformed
  | some p =>
    if depthLimit < p.here.depth then .error .malformed
    else if p.hasBoundary then .error .boundary
    else .ok ()

end Pattern
end ModuleClosure.Logging
