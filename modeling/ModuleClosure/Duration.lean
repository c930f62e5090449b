/-!
# Durations

A length of time in nanoseconds, shown in the largest unit that makes its whole part positive and
with no more decimals than it needs.
-/
namespace ModuleClosure

structure Duration where
  nanoseconds : Nat
deriving DecidableEq, Repr

namespace Duration

def ofSeconds (n : Nat) : Duration := ⟨n * Nat.pow 10 9⟩

def ofMilliseconds (n : Nat) : Duration := ⟨n * Nat.pow 10 6⟩

/-- The decimals of `part / 10 ^ places`, without the zeros at their end. -/
def decimals (places part : Nat) : List Char :=
  let digits := Nat.toDigits 10 part
  let padded := List.replicate (places - digits.length) '0' ++ digits
  (padded.reverse.dropWhile (· == '0')).reverse

/-- A number of units of `10 ^ places` nanoseconds. -/
def inUnit (places : Nat) (unit : String) (n : Nat) : String :=
  let whole := toString (n / Nat.pow 10 places)
  match decimals places (n % Nat.pow 10 places) with
  | [] => whole ++ unit
  | ds => whole ++ "." ++ String.ofList ds ++ unit

def text (d : Duration) : String :=
  let n := d.nanoseconds
  if Nat.pow 10 9 ≤ n then inUnit 9 "s" n
  else if Nat.pow 10 6 ≤ n then inUnit 6 "ms" n
  else if Nat.pow 10 3 ≤ n then inUnit 3 "µs" n
  else inUnit 0 "ns" n

end Duration
end ModuleClosure
