import ModuleClosure.Bound

/-!
# Dependency lists

A dependency list is a sequence of module names, each perhaps followed by a bound in parentheses:
`dune-common (>= 2.4) dune-geometry`.
-/
namespace ModuleClosure
open Text

structure Dependency where
  name : String
  bound : Option Bound
deriving DecidableEq, Repr

namespace Dependency

/-- Why a text is no dependency list. -/
inductive Fault
  | stray (text : String)
  | bound (text : String)
deriving DecidableEq, Repr

def isParenthesis (c : Char) : Bool := c == '(' || c == ')'

/-- The characters of names: neither blank nor a parenthesis. -/
def isNameChar (c : Char) : Bool := !isBlank c && !isParenthesis c

/-- The text between parentheses at the start of `s`, blanks before it passed over, and the rest.
No parenthesis stands inside. -/
def group? (s : List Char) : Option (List Char × List Char) :=
  match trimStart s with
  | '(' :: r =>
    match r.dropWhile fun c => !isParenthesis c with
    | ')' :: rest => some (r.takeWhile fun c => !isParenthesis c, rest)
    | _ => none
  | _ => none

theorem length_group? {s inner rest : List Char} (h : group? s = some (inner, rest)) :
    rest.length < s.length := by
  have hs := (List.dropWhile_suffix isBlank (l := s)).length_le
  unfold group? trimStart at h
  split at h
  · rename_i r hr
    have hd := (List.dropWhile_suffix (fun c => !isParenthesis c) (l := r)).length_le
    split at h
    · rename_i rest' hrest
      simp only [Option.some.injEq, Prod.mk.injEq] at h
      simp only [hr, hrest, List.length_cons, h.2] at hs hd
      omega
    · contradiction
  · contradiction

/-- What stands behind a name: the bound in the group that follows it, if one does, and the rest. -/
def boundAfter (s : List Char) : Except Fault (Option Bound) × List Char :=
  match group? s with
  | none => (.ok none, s)
  | some (inner, rest) =>
    match Bound.ofText? inner with
    | none => (.error (.bound (String.ofList inner)), rest)
    | some b => (.ok (some b), rest)

theorem length_boundAfter_le (s : List Char) : (boundAfter s).2.length ≤ s.length := by
  unfold boundAfter
  split
  · exact Nat.le_refl _
  · rename_i h
    split <;> exact Nat.le_of_lt (length_group? h)

theorem length_behind_name {s r : List Char} {c : Char}
    (h : s.dropWhile (fun c => !isNameChar c) = c :: r) :
    (boundAfter (r.dropWhile isNameChar)).2.length < s.length := by
  have h1 := length_boundAfter_le (r.dropWhile isNameChar)
  have h2 := (List.dropWhile_suffix isNameChar (l := r)).length_le
  have h3 := (List.dropWhile_suffix (fun c => !isNameChar c) (l := s)).length_le
  rw [h, List.length_cons] at h3
  omega

/-- Reads a dependency list. Between two entries, and behind the last, only blanks may stand. -/
def readList (s : List Char) : Except Fault (List Dependency) :=
  let gap := s.takeWhile fun c => !isNameChar c
  if !gap.all isBlank then .error (.stray (String.ofList (trim gap)))
  else
    match h : s.dropWhile fun c => !isNameChar c with
    | [] => .ok []
    | c :: r =>
      let name := String.ofList (c :: r.takeWhile isNameChar)
      let behind := boundAfter (r.dropWhile isNameChar)
      have : behind.2.length < s.length := length_behind_name h
      match behind.1 with
      | .error fault => .error fault
      | .ok bound => (readList behind.2).map (⟨name, bound⟩ :: ·)
termination_by s.length

/-- An entry as it is written in a list. -/
def text (d : Dependency) : String :=
  match d.bound with
  | none => d.name
  | some b => d.name ++ " " ++ b.text

/-- A list as it is written on one line. -/
def listText (ds : List Dependency) : String := " ".intercalate (ds.map text)

end Dependency
end ModuleClosure
