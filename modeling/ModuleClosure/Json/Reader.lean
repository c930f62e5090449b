import ModuleClosure.Json

/-!
# Reading JSON

A text is scanned character by character into tokens, and the tokens are put together on a stack
of open arrays and objects. Both machines take one step per character or token.
-/
namespace ModuleClosure.Json

inductive Token
  | openArray
  | closeArray
  | openObject
  | closeObject
  | comma
  | colon
  /-- A text, or none if it holds half of a surrogate pair. -/
  | text (s : Option String)
  /-- A number or a literal name. -/
  | scalar (j : Json)

/-- What a text is made of: characters, and escapes that give a 16-bit unit. -/
inductive Piece
  | char (c : Char)
  | unit (n : Nat)

def isHighUnit (n : Nat) : Bool := 0xD800 ≤ n && n ≤ 0xDBFF

def isLowUnit (n : Nat) : Bool := 0xDC00 ≤ n && n ≤ 0xDFFF

/-- The characters that pieces stand for; two units that pair give one character. -/
def assemble : List Piece → Option (List Char)
  | [] => some []
  | .char c :: r => (assemble r).map (c :: ·)
  | .unit h :: .unit l :: r =>
    if isHighUnit h then
      if isLowUnit l then
        (assemble r).map (Char.ofNat (0x10000 + (h - 0xD800) * 0x400 + (l - 0xDC00)) :: ·)
      else none
    else if isLowUnit h then none
    else (assemble (.unit l :: r)).map (Char.ofNat h :: ·)
  | .unit n :: r =>
    if isHighUnit n || isLowUnit n then none else (assemble r).map (Char.ofNat n :: ·)

/-- The value of a hexadecimal digit. -/
def hexValue? (c : Char) : Option Nat :=
  if c.isDigit then some (c.toNat - '0'.toNat)
  else if 'a' ≤ c ∧ c ≤ 'f' then some (c.toNat - 'a'.toNat + 10)
  else if 'A' ≤ c ∧ c ≤ 'F' then some (c.toNat - 'A'.toNat + 10)
  else none

/-- The characters that one letter behind a backslash stands for. -/
def escapes : List (Char × Char) :=
  [('"', '"'), ('\\', '\\'), ('/', '/'), ('b', '\x08'), ('f', '\x0c'), ('n', '\n'), ('r', '\r'),
    ('t', '\t')]

/-- Digits of which the first is zero only if it is alone. -/
def isWholeNumeral (s : List Char) : Bool :=
  match s with
  | [] => false
  | '0' :: r => r.isEmpty
  | _ => s.all Char.isDigit

/-- What may follow the whole part: an exponent or nothing. -/
def isExponent : List Char → Bool
  | [] => true
  | c :: r =>
    let digits := match r with
      | '+' :: ds => ds
      | '-' :: ds => ds
      | ds => ds
    (c == 'e' || c == 'E') && !digits.isEmpty && digits.all Char.isDigit

/-- A fraction, an exponent, or both. -/
def isFraction (s : List Char) : Bool :=
  match s with
  | '.' :: r => (r.head?.any Char.isDigit) && isExponent (r.dropWhile Char.isDigit)
  | _ => isExponent s

def number? (s : List Char) : Option Json :=
  let digits := match s with
    | '-' :: r => r
    | _ => s
  let whole := digits.takeWhile Char.isDigit
  let rest := digits.dropWhile Char.isDigit
  let value := whole.foldl (fun n c => n * 10 + (c.toNat - '0'.toNat)) 0
  let negative := s.head? == some '-'
  if !isWholeNumeral whole || !isFraction rest then none
  else if !rest.isEmpty || (negative && value == 0) then some (.fraction (String.ofList s))
  else some (.whole (if negative then -value else value))

/-- A word outside texts: a literal name or a number. -/
def word? (s : List Char) : Option Json :=
  if s = "null".toList then some .null
  else if s = "true".toList then some (.bool true)
  else if s = "false".toList then some (.bool false)
  else number? s

/-- Where the scanner stands. Pieces and words are kept backwards. -/
inductive Scan
  | between
  | word (letters : List Char)
  | text (pieces : List Piece)
  | escape (pieces : List Piece)
  | unit (pieces : List Piece) (missing : Nat) (value : Nat)

def isWordChar (c : Char) : Bool := c.isAlphanum || c == '-' || c == '+' || c == '.'

def isGap (c : Char) : Bool := c == ' ' || c == '\t' || c == '\n' || c == '\r'

def mark? (c : Char) : Option Token :=
  if c = '[' then some .openArray
  else if c = ']' then some .closeArray
  else if c = '\x7b' then some .openObject
  else if c = '\x7d' then some .closeObject
  else if c = ',' then some .comma
  else if c = ':' then some .colon
  else none

/-- What a character begins outside texts and words: the token it is, and where it leads. -/
def beginToken (c : Char) : Option (List Token × Scan) :=
  if isGap c then some ([], .between)
  else if c = '"' then some ([], .text [])
  else if isWordChar c then some ([], .word [c])
  else (mark? c).map fun t => ([t], .between)

/-- One step of the scanner. -/
def Scan.step (c : Char) : Scan → Option (List Token × Scan)
  | between => beginToken c
  | word letters =>
    if isWordChar c then some ([], word (c :: letters))
    else
      match word? letters.reverse, beginToken c with
      | some j, some (tokens, scan) => some (.scalar j :: tokens, scan)
      | _, _ => none
  | text pieces =>
    if c = '"' then some ([.text ((assemble pieces.reverse).map String.ofList)], between)
    else if c = '\\' then some ([], escape pieces)
    else if c.toNat < 0x20 then none
    else some ([], text (.char c :: pieces))
  | escape pieces =>
    if c = 'u' then some ([], unit pieces 4 0)
    else (escapes.lookup c).map fun d => ([], text (.char d :: pieces))
  | unit pieces missing value =>
    (hexValue? c).map fun d =>
      let value := value * 16 + d
      ([], if missing ≤ 1 then text (.unit value :: pieces) else unit pieces (missing - 1) value)

/-- The tokens of a text. -/
def scan (s : Scan) : List Char → Option (List Token)
  | [] =>
    match s with
    | .between => some []
    | .word letters => (word? letters.reverse).map fun j => [.scalar j]
    | _ => none
  | c :: r => (s.step c).bind fun (tokens, s) => (scan s r).map (tokens ++ ·)

/-- An open array or object, its parts backwards. An object keeps the name whose value is read,
and is `broken` if a name in it holds half of a surrogate pair. -/
inductive Frame
  | array (items : List Json)
  | object (members : List (String × Json)) (broken : Bool) (name : Option String)

/-- What may come next; right after an opening bracket that is the closing one as well. -/
inductive Expect
  | value (first : Bool)
  | name (first : Bool)
  | colon
  | behind

/-- The machine: open frames, innermost first, or a whole value. -/
inductive Build
  | building (expect : Expect) (frames : List Frame)
  | done (j : Json)

/-- A complete value goes into the innermost frame, or is the whole. -/
def give (j : Json) : List Frame → Build
  | [] => .done j
  | .array items :: fs => .building .behind (.array (j :: items) :: fs)
  | .object ms broken (some name) :: fs =>
    .building .behind (.object ((name, j) :: ms) broken none :: fs)
  | .object ms _ none :: fs => .building .behind (.object ms true none :: fs)

def closeArray? : List Frame → Option Build
  | .array items :: fs => some (give (.array items.reverse) fs)
  | _ => none

def closeObject? : List Frame → Option Build
  | .object ms broken _ :: fs =>
    some (give (if broken then .unpaired else .object ms.reverse) fs)
  | _ => none

/-- What a comma leads to. -/
def behindComma? (frames : List Frame) : Option Build :=
  match frames with
  | .array _ :: _ => some (.building (.value false) frames)
  | .object .. :: _ => some (.building (.name false) frames)
  | [] => none

def nameMember? (name : Option String) : List Frame → Option Build
  | .object ms broken _ :: fs => some (.building .colon (.object ms broken name :: fs))
  | _ => none

/-- One step of the machine. -/
def Build.step (t : Token) : Build → Option Build
  | done _ => none
  | building expect frames =>
    match expect, t with
    | .value _, .openArray => some (.building (.value true) (.array [] :: frames))
    | .value _, .openObject => some (.building (.name true) (.object [] false none :: frames))
    | .value _, .scalar j => some (give j frames)
    | .value _, .text s => some (give ((s.map Json.text).getD .unpaired) frames)
    | .value true, .closeArray => closeArray? frames
    | .name _, .text s => nameMember? s frames
    | .name true, .closeObject => closeObject? frames
    | .colon, .colon => some (.building (.value false) frames)
    | .behind, .comma => behindComma? frames
    | .behind, .closeArray => closeArray? frames
    | .behind, .closeObject => closeObject? frames
    | _, _ => none

/-- The value that tokens write, if they write one and nothing more. -/
def build (b : Build) : List Token → Option Json
  | [] =>
    match b with
    | .done j => some j
    | _ => none
  | t :: ts => (b.step t).bind fun b => build b ts

def read? (text : String) : Option Json :=
  (scan .between text.toList).bind (build (.building (.value false) []))

end ModuleClosure.Json
