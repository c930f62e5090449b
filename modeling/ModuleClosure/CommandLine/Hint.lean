import ModuleClosure.Failure

/-!
# Hints

A hint on the command line names a module and the address to take for it: `name=address`.
-/
namespace ModuleClosure.CommandLine
open Text

/-- Reads a hint. It is cut at its first `=`, and blanks around the two parts do not count. -/
def readHint (text : String) : Except Invalidity (String × String) :=
  match cut? '=' text.toList with
  | none => .error (.hintWithoutAddress text)
  | some (name, address) =>
    if trim name = [] then .error (.hintWithoutName text)
    else .ok (String.ofList (trim name), String.ofList (trim address))

/-- Reads hints in order, up to the first that is refused. -/
def readHints : List String → Except Invalidity (List (String × String))
  | [] => .ok []
  | text :: texts =>
    match readHint text with
    | .error fault => .error fault
    | .ok hint => (readHints texts).map (hint :: ·)

end ModuleClosure.CommandLine
