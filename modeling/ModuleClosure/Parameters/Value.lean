import ModuleClosure.Decimal
import ModuleClosure.Text.Blank

/-!
# Typed readings of a parameter

A parameter is a text; it may be read as a whole number of some width, a truth value, a
character, a text or a binary floating-point number.
-/
namespace ModuleClosure.Parameters

inductive Kind
  | signed (bits : Nat)
  | unsigned (bits : Nat)
  | truth
  | character
  | text
  | floating (format : BinaryFormat)
deriving DecidableEq, Repr

/-- A floating-point number is its bit pattern; what is no number has no pattern of its own. -/
inductive Value
  | whole (n : Int)
  | truth (b : Bool)
  | character (c : Char)
  | text (s : String)
  | floating (bits : Nat)
  | notANumber
deriving DecidableEq, Repr

/-- Why a text has no reading of the kind asked for. -/
inductive ReadFault
  | invalidDigit
  | emptyNumber
  | tooLarge
  | tooSmall
  | emptyFloating
  | invalidFloating
  | invalidTruth
  | emptyCharacter
  | severalCharacters
deriving DecidableEq, Repr

def ReadFault.message : ReadFault → String
  | invalidDigit => "invalid digit found in string"
  | emptyNumber => "cannot parse integer from empty string"
  | tooLarge => "number too large to fit in target type"
  | tooSmall => "number too small to fit in target type"
  | emptyFloating => "cannot parse float from empty string"
  | invalidFloating => "invalid float literal"
  | invalidTruth => "provided string was not `true` or `false`"
  | emptyCharacter => "cannot parse char from empty string"
  | severalCharacters => "too many characters in string"

/-- Continues a number with digits. The first digit that takes it past `limit` is the fault
`beyond`, unless an invalid digit stands before it. -/
def digitsUpTo (limit : Nat) (beyond : ReadFault) : Nat → List Char → Except ReadFault Nat
  | n, [] => .ok n
  | n, c :: r =>
    if !c.isDigit then .error .invalidDigit
    else
      let next := n * 10 + (c.toNat - '0'.toNat)
      if next ≤ limit then digitsUpTo limit beyond next r else .error beyond

/-- A number with an optional sign; `below` is the limit of its negative values, if it has any. -/
def readWhole (below : Option Nat) (limit : Nat) : List Char → Except ReadFault Int
  | [] => .error .emptyNumber
  | '+' :: r =>
    if r = [] then .error .invalidDigit
    else (digitsUpTo limit .tooLarge 0 r).map Int.ofNat
  | '-' :: r =>
    match below with
    | none => .error .invalidDigit
    | some least =>
      if r = [] then .error .invalidDigit
      else (digitsUpTo least .tooSmall 0 r).map fun n => -Int.ofNat n
  | s => (digitsUpTo limit .tooLarge 0 s).map Int.ofNat

/-- A number without its sign: digits, or one of the names of infinity and of no number. -/
def readMagnitude (format : BinaryFormat) (s : List Char) : Except ReadFault (Option Nat) :=
  match Decimal.read? s with
  | some d => .ok (some (format.ofDecimal d))
  | none =>
    let word := String.ofList (s.map Char.toLower)
    if word = "inf" ∨ word = "infinity" then .ok (some format.infinity)
    else if word = "nan" then .ok none
    else .error .invalidFloating

def readFloating (format : BinaryFormat) (s : List Char) : Except ReadFault Value :=
  let signed (sign : Nat) (r : List Char) : Except ReadFault Value :=
    (readMagnitude format r).map fun
      | some bits => .floating (sign + bits)
      | none => .notANumber
  match s with
  | [] => .error .emptyFloating
  | '-' :: r => signed format.signBit r
  | '+' :: r => signed 0 r
  | _ => signed 0 s

def readCharacter : List Char → Except ReadFault Value
  | [] => .error .emptyCharacter
  | [c] => .ok (.character c)
  | _ => .error .severalCharacters

def Kind.read (kind : Kind) (raw : String) : Except ReadFault Value :=
  match kind with
  | .signed bits =>
    (readWhole (some (Nat.pow 2 (bits - 1))) (Nat.pow 2 (bits - 1) - 1) raw.toList).map .whole
  | .unsigned bits => (readWhole none (Nat.pow 2 bits - 1) raw.toList).map .whole
  | .truth =>
    if raw = "true" then .ok (.truth true)
    else if raw = "false" then .ok (.truth false)
    else .error .invalidTruth
  | .character => readCharacter raw.toList
  | .text => .ok (.text raw)
  | .floating format => readFloating format raw.toList

end ModuleClosure.Parameters
