import ModuleClosure.Json.Reader
import ModuleClosure.Yaml.Layout
import ModuleClosure.Yaml.Token

/-!
# Names, tags and directives

What may stand before a value, or before a document.
-/
namespace ModuleClosure.Yaml

def isWordChar (c : Char) : Bool := c.isAlphanum || c == '_' || c == '-'

/-- The longest run of glyphs of a kind, as characters, and what follows it. -/
def run (p : Char → Bool) (s : List Glyph) : List Char × List Glyph :=
  ((s.takeWhile (p ·.char)).map (·.char), s.dropWhile (p ·.char))

/-- The name of an alias or anchor. -/
def anchorName? (s : List Glyph) : Option (String × List Glyph) :=
  let (name, rest) := run isWordChar s
  let ends := match rest with
    | [] => true
    | g :: _ => isBlank g.char || "?:,]\x7d%@`".toList.contains g.char
  if name = [] ∨ !ends then none else some (String.ofList name, rest)

/-- How many octets follow the first octet of a character. -/
def octetsBehind? (octet : Nat) : Option Nat :=
  if octet < 0x80 then some 0
  else if 0xC0 ≤ octet ∧ octet < 0xE0 then some 1
  else if 0xE0 ≤ octet ∧ octet < 0xF0 then some 2
  else if 0xF0 ≤ octet ∧ octet < 0xF8 then some 3
  else none

/-- Replaces octets that are written with a percent sign by the characters of their numbers, where
`missing` octets must follow. -/
def unescape? (missing : Nat) : List Char → Option (List Char)
  | [] => if missing = 0 then some [] else none
  | '%' :: a :: b :: r => do
    let octet := 16 * (← Json.hexValue? a) + (← Json.hexValue? b)
    let missing ← if missing = 0 then octetsBehind? octet
      else if 0x80 ≤ octet ∧ octet < 0xC0 then some (missing - 1) else none
    return Char.ofNat octet :: (← unescape? missing r)
  | c :: r => if missing = 0 ∧ c ≠ '%' then (unescape? 0 r).map (c :: ·) else none

def isTagChar (c : Char) : Bool := isWordChar c || ";/?:@&=+$.%!~*'()".toList.contains c

def isLinkChar (c : Char) : Bool := isTagChar c || c == ',' || c == '[' || c == ']'

/-- A tag in full between angle brackets, behind the first. -/
def fullTag? (s : List Glyph) : Option (String × String × List Glyph) := do
  let (link, rest) := run isLinkChar s
  let link ← unescape? 0 link
  match rest with
  | g :: rest => if link ≠ [] ∧ g.char = '>' then some ("", String.ofList link, rest) else none
  | [] => none

/-- A tag without brackets, behind its exclamation mark: a handle and a suffix. The mark alone is a
suffix. -/
def shortTag? (s : List Glyph) : Option (String × String × List Glyph) := do
  let (word, rest) := run isWordChar s
  match rest with
  | g :: rest' =>
    if g.char = '!' then
      let (suffix, rest) := run isTagChar rest'
      let suffix ← unescape? 0 suffix
      if suffix = [] then none
      else some (String.ofList ('!' :: word ++ ['!']), String.ofList suffix, rest)
    else
      let (more, rest) := run isTagChar rest
      let suffix := word ++ (← unescape? 0 more)
      if suffix = [] then some ("", "!", rest) else some ("!", String.ofList suffix, rest)
  | [] => if word = [] then some ("", "!", []) else some ("!", String.ofList word, [])

/-- A tag behind its exclamation mark. -/
def tag? (flow : Bool) (s : List Glyph) : Option (String × String × List Glyph) := do
  let (handle, suffix, rest) ← match s with
    | g :: r => if g.char = '<' then fullTag? r else shortTag? s
    | [] => shortTag? s
  let ends := match rest with
    | [] => true
    | g :: _ => isBlank g.char || (flow && g.char == ',')
  if ends then some (handle, suffix, rest) else none

/-- A number of at most nine digits. -/
def shortNumber? (s : List Glyph) : Option (Nat × List Glyph) :=
  let (digits, rest) := run Char.isDigit s
  if digits = [] ∨ 9 < digits.length then none
  else some (digits.foldl (fun n c => 10 * n + (c.toNat - '0'.toNat)) 0, rest)

def skipSpaces (s : List Glyph) : List Glyph := s.dropWhile (isSpace ·.char)

/-- The version that a directive asks for. -/
def versionDirective? (s : List Glyph) : Option (Directive × List Glyph) := do
  let (major, rest) ← shortNumber? (skipSpaces s)
  match rest with
  | g :: rest =>
    let (minor, rest) ← shortNumber? rest
    if g.char = '.' then some (.version major minor, rest) else none
  | [] => none

/-- A handle and what it stands for. -/
def handleDirective? (s : List Glyph) : Option (Directive × List Glyph) := do
  match skipSpaces s with
  | g :: r =>
    let (word, rest) := run isWordChar r
    let (closing, rest) := match rest with
      | h :: rest' => if h.char = '!' then (['!'], rest') else ([], rest)
      | [] => ([], [])
    if g.char ≠ '!' ∨ (word ≠ [] ∧ closing = []) then none
    else
      let (link, behind) := run isLinkChar (skipSpaces rest)
      let link ← unescape? 0 link
      if link = [] ∨ (rest.head?.all fun h => !isSpace h.char) ∨ !startsGap behind then none
      else some (.handle (String.ofList ('!' :: word ++ closing)) (String.ofList link), behind)
  | [] => none

/-- A directive behind its percent sign, and the line that follows. -/
def directive? (s : List Glyph) : Option (Directive × List Glyph) := do
  let (name, rest) := run isWordChar s
  if !startsGap rest then none
  else
    let (d, rest) ← if name = "YAML".toList then versionDirective? rest
      else if name = "TAG".toList then handleDirective? rest
      else none
    return (d, ← nextLine? false rest)

end ModuleClosure.Yaml
