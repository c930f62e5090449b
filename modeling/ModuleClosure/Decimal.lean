/-!
# Decimal numbers and their nearest binary values

A decimal text is digits with an optional point and exponent. Its value is rounded to a binary
format in exact arithmetic: the nearest value wins, and a tie goes to the even significand.
-/
namespace ModuleClosure

/-- The number `digits * 10 ^ exponent`. -/
structure Decimal where
  digits : Nat
  exponent : Int
deriving DecidableEq, Repr

/-- A binary format: the bits of the significand, the hidden one counted, and of the exponent. -/
structure BinaryFormat where
  precision : Nat
  exponentBits : Nat
deriving DecidableEq, Repr

namespace BinaryFormat

def double : BinaryFormat := ⟨53, 11⟩

def single : BinaryFormat := ⟨24, 8⟩

/-- The exponent of the last place of the smallest values. -/
def leastExponent (f : BinaryFormat) : Int :=
  3 - (Nat.pow 2 (f.exponentBits - 1) : Int) - (f.precision : Int)

/-- The bit pattern of infinity; the patterns of finite values are below it, in order of value. -/
def infinity (f : BinaryFormat) : Nat :=
  (Nat.pow 2 f.exponentBits - 1) * Nat.pow 2 (f.precision - 1)

def signBit (f : BinaryFormat) : Nat := Nat.pow 2 (f.precision - 1 + f.exponentBits)

/-- The quotient rounded to the nearest whole number, a half to the even one. -/
def roundDiv (num den : Nat) : Nat :=
  let q := num / den
  let twice := 2 * (num % den)
  if twice < den then q
  else if den < twice then q + 1
  else if q % 2 = 0 then q else q + 1

/-- `num / den / 2 ^ e` as a quotient. -/
def scaled (num den : Nat) (e : Int) : Nat × Nat :=
  if 0 ≤ e then (num, den * Nat.pow 2 e.toNat) else (num * Nat.pow 2 (-e).toNat, den)

/-- The exponent of the last place for the value `num / den`. -/
def placeOf (f : BinaryFormat) (num den : Nat) : Int :=
  let e : Int := (num.log2 : Int) - (den.log2 : Int) - (f.precision - 1 : Nat)
  let s := scaled num den e
  let e := if s.1 < s.2 * Nat.pow 2 (f.precision - 1) then e - 1 else e
  max e f.leastExponent

/-- The bit pattern of the value nearest to `num / den`. A significand that rounds up to the next
power of two carries into the exponent, which is the pattern of that power. -/
def nearest (f : BinaryFormat) (num den : Nat) : Nat :=
  if num = 0 then 0
  else
    let e := f.placeOf num den
    let s := scaled num den e
    min f.infinity (roundDiv s.1 s.2 + (e - f.leastExponent).toNat * Nat.pow 2 (f.precision - 1))

/-- The bit pattern of the value nearest to a decimal. A magnitude that no format reaches is not
computed. -/
def ofDecimal (f : BinaryFormat) (d : Decimal) : Nat :=
  let magnitude : Int := (Nat.toDigits 10 d.digits).length + d.exponent
  if d.digits = 0 then 0
  else if 400 < magnitude then f.infinity
  else if magnitude < -400 then 0
  else if 0 ≤ d.exponent then f.nearest (d.digits * Nat.pow 10 d.exponent.toNat) 1
  else f.nearest d.digits (Nat.pow 10 (-d.exponent).toNat)

end BinaryFormat

namespace Decimal

def valueOf (digits : List Char) : Nat :=
  digits.foldl (fun n c => n * 10 + (c.toNat - '0'.toNat)) 0

/-- The exponent behind the letter: a sign or none, and at least one digit. -/
def exponentOf? (s : List Char) : Option Int :=
  let (negative, digits) :=
    match s with
    | '-' :: r => (true, r)
    | '+' :: r => (false, r)
    | _ => (false, s)
  if digits = [] ∨ !digits.all Char.isDigit then none
  else some (if negative then -(valueOf digits : Int) else valueOf digits)

/-- What follows the digits: nothing, or an exponent. -/
def behindDigits? : List Char → Option Int
  | [] => some 0
  | c :: r => if c = 'e' ∨ c = 'E' then exponentOf? r else none

/-- Reads a number without a sign; there is a digit before or after the point. -/
def read? (s : List Char) : Option Decimal :=
  let whole := s.takeWhile Char.isDigit
  let (fraction, rest) :=
    match s.dropWhile Char.isDigit with
    | '.' :: r => (r.takeWhile Char.isDigit, r.dropWhile Char.isDigit)
    | r => ([], r)
  if whole = [] ∧ fraction = [] then none
  else (behindDigits? rest).map fun e => ⟨valueOf (whole ++ fraction), e - fraction.length⟩

end Decimal
end ModuleClosure
