import ModuleClosure.Description
import ModuleClosure.Text.Lowercase

/-!
# Lines of a description file

A line is `Key: value`. Six keys are known; what a line says is a `Field`, and a line that says
nothing is refused with a `LineFault`.
-/
namespace ModuleClosure.Description
open Text

inductive Key
  | module
  | version
  | maintainer
  | whitespaceHook
  | depends
  | suggests
deriving DecidableEq, Repr

def Key.text : Key → String
  | module => "Module"
  | version => "Version"
  | maintainer => "Maintainer"
  | whitespaceHook => "Whitespace-Hook"
  | depends => "Depends"
  | suggests => "Suggests"

def Key.all : List Key := [module, version, maintainer, whitespaceHook, depends, suggests]

def Key.ofText? (text : String) : Option Key := all.find? fun k => k.text == text

inductive Field
  | name (value : String)
  | version (value : String)
  | maintainer (value : String)
  | whitespaceHook (value : Bool)
  | depends (entries : List Dependency)
  | suggests (entries : List Dependency)
deriving DecidableEq, Repr

/-- Why a line is refused; `stated` is a reason in the words of a caller. -/
inductive LineFault
  | unrecognised (line : String)
  | unknownKey (key : String)
  | missingValue (key : Key)
  | severalValues (key : Key) (value : String)
  | flag (value : String)
  | list (fault : Dependency.Fault)
  | stated (text : String)
deriving DecidableEq, Repr

def LineFault.message : LineFault → String
  | unrecognised line => "无法识别的行: '" ++ line ++ "'"
  | unknownKey key => "未知的键 '" ++ key ++ "'"
  | missingValue key => key.text ++ " 缺少值"
  | severalValues key value => key.text ++ " 只能有一个值: '" ++ value ++ "'"
  | flag value => "Whitespace-Hook 的取值无效: '" ++ value ++ "'"
  | list (.stray text) => "依赖列表格式错误: '" ++ text ++ "'"
  | list (.bound text) => "无效的版本约束: '(" ++ text ++ ")'"
  | stated text => text

def isKeyChar (c : Char) : Bool := c.isAlpha || c == '-'

/-- The key and the trimmed value of a line: a letter, letters and hyphens, a colon. -/
def keyAndValue? (line : List Char) : Option (List Char × List Char) :=
  match line with
  | [] => none
  | c :: _ =>
    if c.isAlpha then
      match trimStart (line.dropWhile isKeyChar) with
      | ':' :: value => some (line.takeWhile isKeyChar, trim value)
      | _ => none
    else none

/-- A value of exactly one word. -/
def singleWord (key : Key) (value : List Char) : Except LineFault String :=
  if value = [] then .error (.missingValue key)
  else if value.any isBlank then .error (.severalValues key (String.ofList value))
  else .ok (String.ofList value)

/-- A flag, in any case of letters. -/
def flagOf (value : List Char) : Except LineFault Bool :=
  let word := String.ofList (lowercase value)
  if word ∈ ["yes", "true", "on", "1"] then .ok true
  else if word ∈ ["no", "false", "off", "0"] then .ok false
  else .error (.flag word)

def listOf (value : List Char) : Except LineFault (List Dependency) :=
  (Dependency.readList value).mapError .list

/-- What a value says under its key. -/
def Field.ofValue (value : List Char) : Key → Except LineFault Field
  | .module => (singleWord .module value).map .name
  | .version => (singleWord .version value).map .version
  | .maintainer =>
    if value = [] then .error (.missingValue .maintainer)
    else .ok (.maintainer (String.ofList value))
  | .whitespaceHook => (flagOf value).map .whitespaceHook
  | .depends => (listOf value).map .depends
  | .suggests => (listOf value).map .suggests

/-- What a trimmed line says. -/
def Field.ofLine (line : List Char) : Except LineFault Field :=
  match keyAndValue? line with
  | none => .error (.unrecognised (String.ofList line))
  | some (key, value) =>
    match Key.ofText? (String.ofList key) with
    | none => .error (.unknownKey (String.ofList key))
    | some key => Field.ofValue value key

/-- Lines without a field: nothing after trimming, or a comment. -/
def isSkipped (line : List Char) : Bool :=
  match line with
  | [] => true
  | c :: _ => c == '#'

end ModuleClosure.Description
