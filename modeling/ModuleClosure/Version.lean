import ModuleClosure.Text.Blank
import ModuleClosure.Text.CharLiteral

/-!
# Versions

A version text is cut down to three dot-separated components before it is read: what follows its
first hyphen is dropped, components past the third are ignored and missing ones count as zero. A
version is then three numbers below 2^64 and a build tag, ordered lexicographically.
-/
namespace ModuleClosure

structure Version where
  major : Nat
  minor : Nat
  patch : Nat
  /-- The identifier behind `+`, empty when there is none. -/
  tag : List Char
deriving DecidableEq, Repr

namespace Version
open Text

/-- The part of a version that is being read. -/
inductive Place
  | major
  | minor
  | patch
  | tag
deriving DecidableEq, Repr

def Place.text : Place → String
  | .major => "major version number"
  | .minor => "minor version number"
  | .patch => "patch version number"
  | .tag => "build metadata"

/-- Why a text is no version. -/
inductive Fault
  | endsInside (place : Place)
  | unexpected (c : Char) (place : Place)
  | unexpectedAfter (c : Char) (place : Place)
  | leadingZero (place : Place)
  | tooLarge (place : Place)
  | emptyTag
deriving DecidableEq, Repr

def Fault.message : Fault → String
  | .endsInside place => "unexpected end of input while parsing " ++ place.text
  | .unexpected c place => "unexpected character " ++ quoteChar c ++ " while parsing " ++ place.text
  | .unexpectedAfter c place => "unexpected character " ++ quoteChar c ++ " after " ++ place.text
  | .leadingZero place => "invalid leading zero in " ++ place.text
  | .tooLarge place => "value of " ++ place.text ++ " exceeds u64::MAX"
  | .emptyTag => "empty identifier segment in " ++ Place.tag.text

def digitValue (c : Char) : Nat := c.toNat - '0'.toNat

/-- Continues a number with the digits at the start of a text; `started` tells whether a digit
came before. A zero takes no further digit, and the number stays below 2^64. -/
def numberFrom (place : Place) (value : Nat) (started : Bool) :
    List Char → Except Fault (Nat × List Char)
  | [] => .ok (value, [])
  | c :: r =>
    if c.isDigit then
      if value = 0 ∧ started then .error (.leadingZero place)
      else if value * 10 + digitValue c < Nat.pow 2 64 then
        numberFrom place (value * 10 + digitValue c) true r
      else .error (.tooLarge place)
    else .ok (value, c :: r)

/-- A component that a dot follows: a number and nothing else. -/
def wholeComponent (place : Place) : List Char → Except Fault Nat
  | [] => .error (.unexpected '.' place)
  | c :: r =>
    if c.isDigit then
      match numberFrom place 0 false (c :: r) with
      | .error fault => .error fault
      | .ok (n, []) => .ok n
      | .ok (_, d :: _) => .error (.unexpectedAfter d place)
    else .error (.unexpected c place)

def isTagChar (c : Char) : Bool := c.isAlphanum || c == '-'

/-- What follows the patch number: nothing, or `+` and one identifier. -/
def tagOf : List Char → Except Fault (List Char)
  | [] => .ok []
  | c :: r =>
    if c = '+' then
      if r.takeWhile isTagChar = [] then .error .emptyTag
      else match r.dropWhile isTagChar with
        | [] => .ok (r.takeWhile isTagChar)
        | d :: _ => .error (.unexpectedAfter d .tag)
    else .error (.unexpectedAfter c .patch)

/-- The last component: a number and perhaps a build tag. -/
def lastComponent : List Char → Except Fault (Nat × List Char)
  | [] => .error (.endsInside .patch)
  | c :: r =>
    if c.isDigit then
      match numberFrom .patch 0 false (c :: r) with
      | .error fault => .error fault
      | .ok (n, rest) => (tagOf rest).map (n, ·)
    else .error (.unexpected c .patch)

/-- The three components of a version text. -/
def components (text : List Char) : List Char × List Char × List Char :=
  match fields '.' ((trim text).takeWhile (· ≠ '-')) with
  | [] => (['0'], ['0'], ['0'])
  | [a] => (a, ['0'], ['0'])
  | [a, b] => (a, b, ['0'])
  | a :: b :: c :: _ => (a, b, c)

def read (text : String) : Except Fault Version := do
  let (a, b, c) := components text.toList
  let major ← wholeComponent .major a
  let minor ← wholeComponent .minor b
  let (patch, tag) ← lastComponent c
  return ⟨major, minor, patch, tag⟩

/-- Tags of digits come before all others and are ordered by value, then by length; the others are
ordered as texts. -/
def compareTags (a b : List Char) : Ordering :=
  match a.all Char.isDigit, b.all Char.isDigit with
  | false, true => .gt
  | true, false => .lt
  | false, false => compare (String.ofList a) (String.ofList b)
  | true, true =>
    let x := a.dropWhile (· == '0')
    let y := b.dropWhile (· == '0')
    (compare x.length y.length).then
      ((compare (String.ofList x) (String.ofList y)).then (compare a.length b.length))

instance : Ord Version where
  compare v w :=
    (compare v.major w.major).then ((compare v.minor w.minor).then
      ((compare v.patch w.patch).then (compareTags v.tag w.tag)))

end Version
end ModuleClosure
