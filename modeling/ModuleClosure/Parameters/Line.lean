import ModuleClosure.Parameters

/-!
# Lines of a parameter file

A line is a comment, a header in brackets that opens a section or leaves all sections, or an
assignment `key = value`. Keys and headers are dotted paths.
-/
namespace ModuleClosure.Parameters
open Text

/-- A path: its segments, outermost first. -/
abbrev Path := List String

/-- The key of a path. -/
def Path.key (path : Path) : String := ".".intercalate path

inductive Line
  | skipped
  | leave
  | enter (path : Path)
  | assign (path : Path) (value : String)
deriving DecidableEq, Repr

/-- Why a line is refused; `stated` is a reason in the words of a caller. -/
inductive LineFault
  | openHeader (line : String)
  | unrecognised (line : String)
  | emptySegment (path : String)
  | emptyKey
  | stated (text : String)
deriving DecidableEq, Repr

def LineFault.message : LineFault → String
  | openHeader line => "段头缺少 ']': '" ++ line ++ "'"
  | unrecognised line => "无法识别的行: '" ++ line ++ "'"
  | emptySegment path => "名称中存在空段: '" ++ path ++ "'"
  | emptyKey => "键名不能为空"
  | stated text => text

/-- The segments of a dotted path; a blank text is the empty path, and no segment is blank. -/
def pathOf (text : List Char) : Except LineFault Path :=
  let text := trim text
  if text = [] then .ok []
  else
    let segments := (fields '.' text).map trim
    if [] ∈ segments then .error (.emptySegment (String.ofList text))
    else .ok (segments.map String.ofList)

/-- The text between two equal marks at its ends, or the text itself. -/
def unwrap? (mark : Char) (s : List Char) : Option (List Char) :=
  match s with
  | c :: r => if c = mark ∧ r.getLast? = some mark then some r.dropLast else none
  | [] => none

/-- A value without one pair of matching quotes. -/
def unquote (s : List Char) : List Char :=
  (unwrap? '"' s).getD ((unwrap? '\'' s).getD s)

/-- What the text behind an opening bracket says; `line` is the whole line. -/
def Line.ofHeader (line inside : List Char) : Except LineFault Line :=
  match inside.getLast? with
  | some ']' =>
    let name := inside.dropLast
    if (trim name).isEmpty then .ok .leave else (pathOf name).map .enter
  | _ => .error (.openHeader (String.ofList line))

def Line.ofAssignment (line : List Char) : Except LineFault Line :=
  match cut? '=' line with
  | none => .error (.unrecognised (String.ofList line))
  | some (key, value) =>
    match pathOf key with
    | .error fault => .error fault
    | .ok [] => .error .emptyKey
    | .ok path => .ok (.assign path (String.ofList (unquote (trim value))))

/-- What a trimmed line says. -/
def Line.ofText (line : List Char) : Except LineFault Line :=
  match line with
  | [] => .ok .skipped
  | '#' :: _ => .ok .skipped
  | ';' :: _ => .ok .skipped
  | '[' :: inside => Line.ofHeader line inside
  | _ => Line.ofAssignment line

end ModuleClosure.Parameters
