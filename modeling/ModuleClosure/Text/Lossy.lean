/-!
# Bytes as text

A lenient reading of bytes as UTF-8: each longest sequence that begins a character and is broken
off, and each byte that begins none, becomes one replacement character.
-/
namespace ModuleClosure.Text

/-- A character that is begun: the bytes still needed, the range of the next one, and the bits so
far. -/
structure Begun where
  needed : Nat
  low : Nat
  high : Nat
  bits : Nat

def replacement : Char := Char.ofNat 0xFFFD

/-- What a byte gives at the start of a character. -/
def beginChar (b : Nat) : List Char × Option Begun :=
  if b < 0x80 then ([Char.ofNat b], none)
  else if b < 0xC2 then ([replacement], none)
  else if b < 0xE0 then ([], some ⟨1, 0x80, 0xBF, b - 0xC0⟩)
  else if b < 0xF0 then
    ([], some ⟨2, if b = 0xE0 then 0xA0 else 0x80, if b = 0xED then 0x9F else 0xBF, b - 0xE0⟩)
  else if b < 0xF5 then
    ([], some ⟨3, if b = 0xF0 then 0x90 else 0x80, if b = 0xF4 then 0x8F else 0xBF, b - 0xF0⟩)
  else ([replacement], none)

def decodeFrom (begun : Option Begun) : List UInt8 → List Char
  | [] => if begun.isSome then [replacement] else []
  | byte :: r =>
    let b := byte.toNat
    match begun with
    | none => (beginChar b).1 ++ decodeFrom (beginChar b).2 r
    | some s =>
      if s.low ≤ b ∧ b ≤ s.high then
        let bits := s.bits * 64 + (b - 0x80)
        if s.needed ≤ 1 then Char.ofNat bits :: decodeFrom none r
        else decodeFrom (some ⟨s.needed - 1, 0x80, 0xBF, bits⟩) r
      else replacement :: ((beginChar b).1 ++ decodeFrom (beginChar b).2 r)

def decodeLossy (bytes : List UInt8) : List Char := decodeFrom none bytes

end ModuleClosure.Text
