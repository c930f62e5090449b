import ModuleClosure.Yaml
import ModuleClosure.Yaml.Lexer

/-!
# From tokens to values

A text holds one value, between optional marks. Each reader spends one unit of fuel a call, and a
text has fuel for several a token.
-/
namespace ModuleClosure.Yaml

/-- What has been read: the tokens that are left, and the values with names. Numbers are given in
the order in which the values start. -/
structure Reading where
  tokens : List Token
  /-- The numbers of names, the latest first. -/
  numbers : List (String × Nat) := []
  values : List (Nat × Yaml) := []

abbrev Reader := StateT Reading Option

namespace Reader

def next? : Reader (Option Token) := return (← get).tokens.head?

def skip : Reader Unit := modify fun s => { s with tokens := s.tokens.tail }

/-- Gives the next value of a name a number. -/
def number (name : String) : Reader Nat := do
  let s ← get
  let n := s.numbers.length
  set { s with numbers := (name, n) :: s.numbers }
  return n

def record (n : Nat) (y : Yaml) : Reader Unit :=
  modify fun s => { s with values := (n, y) :: s.values }

/-- The handles that every text has, behind those of its own. -/
def standardHandles : List (String × String) := [("!", "!"), ("!!", coreTag "")]

/-- A tag in full; one without a handle is so already. -/
def fullTag (handles : List (String × String)) (handle suffix : String) : Reader String :=
  if handle = "" then return suffix
  else do
    let stem ← (handles ++ standardHandles).lookup handle
    return stem ++ suffix

/-- The name and the tag before a value, in either order. -/
def labels (handles : List (String × String)) : Reader (Option String × Option String) := do
  match ← next? with
  | some (.anchor name) =>
    skip
    match ← next? with
    | some (.tag handle suffix) =>
      skip
      return (some name, some (← fullTag handles handle suffix))
    | _ => return (some name, none)
  | some (.tag handle suffix) =>
    skip
    let tag ← fullTag handles handle suffix
    match ← next? with
    | some (.anchor name) =>
      skip
      return (some name, some tag)
    | _ => return (none, some tag)
  | _ => return (none, none)

/-- A value that may be left out before certain tokens. -/
def orNothing (ends : Token → Bool) (read : Reader Yaml) : Reader Yaml := do
  if (← next?).any ends then return nothing else read

/-- What follows a colon, if there is one. -/
def afterColon (read : Reader Yaml) : Reader Yaml := do
  match ← next? with
  | some .colon =>
    skip
    read
  | _ => return nothing

/-- What ends an entry of a block before a value. -/
def endsMember : Token → Bool
  | .key | .colon | .blockEnd => true
  | _ => false

def endsEntry : Token → Bool
  | .dash | .blockEnd => true
  | _ => false

/-- What ends a member in brackets before a value. -/
def endsItem : Token → Bool
  | .comma | .closeList => true
  | _ => false

def endsFlowMember : Token → Bool
  | .comma | .closeMapping => true
  | _ => false

def isColon : Token → Bool
  | .colon => true
  | _ => false

variable (handles : List (String × String))

mutual

/-- A value of any kind. In a block it may be a block; `loose` if it may be a list whose dashes are
in the column of the names around it. -/
def value (block loose : Bool) : Nat → Reader Yaml
  | 0 => failure
  | fuel + 1 => do
    match ← next? with
    | some (.reference name) =>
      skip
      return .reference (← (← get).numbers.lookup name)
    | _ =>
      let (name, tag) ← labels handles
      match name with
      | some name =>
        let n ← number name
        let y ← content block loose true tag fuel
        record n y
        return y
      | none => content block loose tag.isSome tag fuel

/-- A value behind its labels, which may be left out if it has some. -/
def content (block loose labelled : Bool) (tag : Option String) : Nat → Reader Yaml
  | 0 => failure
  | fuel + 1 => do
    match ← next?, block, loose with
    | some .dash, _, true => looseEntries [] fuel
    | some (.scalar text style), _, _ =>
      skip
      return scalar text style (tag.filter (· ≠ "!"))
    | some .openList, _, _ =>
      skip
      items [] fuel
    | some .openMapping, _, _ =>
      skip
      flowMembers [] fuel
    | some .blockList, true, _ =>
      skip
      entries [] fuel
    | some .blockMapping, true, _ =>
      skip
      members [] fuel
    | _, _, _ => if labelled then return scalar "" .plain tag else failure

/-- The entries of a block list. -/
def entries (read : List Yaml) : Nat → Reader Yaml
  | 0 => failure
  | fuel + 1 => do
    match ← next? with
    | some .dash =>
      skip
      let y ← orNothing endsEntry (value true false fuel)
      entries (y :: read) fuel
    | some .blockEnd =>
      skip
      return list read.reverse
    | _ => failure

/-- The entries of a list whose dashes are in the column of the names around it. -/
def looseEntries (read : List Yaml) : Nat → Reader Yaml
  | 0 => failure
  | fuel + 1 => do
    match ← next? with
    | some .dash =>
      skip
      let y ← orNothing (fun t => endsEntry t || endsMember t) (value true false fuel)
      looseEntries (y :: read) fuel
    | _ => return list read.reverse

/-- The members of a block mapping. -/
def members (read : List (Yaml × Yaml)) : Nat → Reader Yaml
  | 0 => failure
  | fuel + 1 => do
    match ← next? with
    | some .key =>
      skip
      let name ← orNothing endsMember (value true true fuel)
      let y ← afterColon (orNothing endsMember (value true true fuel))
      members ((name, y) :: read) fuel
    | some .blockEnd =>
      skip
      return mapping read.reverse
    | _ => failure

/-- The items of a list in brackets; a name with a value is a mapping of its own. A name that is
left out takes the token behind it along. -/
def items (read : List Yaml) : Nat → Reader Yaml
  | 0 => failure
  | fuel + 1 => do
    match ← next? with
    | some .closeList =>
      skip
      return list read.reverse
    | next =>
      let y ← match next with
        | some .key => do
          skip
          let name ← if (← next?).any fun t => isColon t || endsItem t then
              skip
              pure nothing
            else value false false fuel
          let y ← afterColon (orNothing endsItem (value false false fuel))
          pure (mapping [(name, y)])
        | _ => value false false fuel
      match ← next? with
      | some .comma =>
        skip
        items (y :: read) fuel
      | some .closeList =>
        skip
        return list (y :: read).reverse
      | _ => failure

/-- The members of a mapping in braces. -/
def flowMembers (read : List (Yaml × Yaml)) : Nat → Reader Yaml
  | 0 => failure
  | fuel + 1 => do
    match ← next? with
    | some .closeMapping =>
      skip
      return mapping read.reverse
    | next =>
      let member ← match next with
        | some .key => do
          skip
          let name ← orNothing (fun t => isColon t || endsFlowMember t) (value false false fuel)
          let y ← afterColon (orNothing endsFlowMember (value false false fuel))
          pure (name, y)
        | _ => do
          let name ← value false false fuel
          pure (name, nothing)
      match ← next? with
      | some .comma =>
        skip
        flowMembers (member :: read) fuel
      | some .closeMapping =>
        skip
        return mapping (member :: read).reverse
      | _ => failure

end

/-- The directives before a document, each at most once: whether there is a version, and the
handles. -/
def directives (version : Bool) (handles : List (String × String)) :
    List Token → Option (Bool × List (String × String) × List Token)
  | .directive (.version major minor) :: ts =>
    if version ∨ major ≠ 1 ∨ (minor ≠ 1 ∧ minor ≠ 2) then none else directives true handles ts
  | .directive (.handle name stem) :: ts =>
    if (handles.lookup name).isSome then none else directives version ((name, stem) :: handles) ts
  | ts => some (version, handles, ts)

/-- What ends a document before its value. -/
def endsDocument : Token → Bool
  | .directive _ | .documentStart | .documentEnd => true
  | _ => false

def isDocumentEnd : Token → Bool
  | .documentEnd => true
  | _ => false

/-- The value of the only document, which may be left out. -/
def document (ts : List Token) : Option (Yaml × Reading) := do
  let fuel := 4 * ts.length + 8
  let (version, handles, rest) ← directives false [] ts
  match rest with
  | .documentStart :: ts =>
    if ts.head?.all endsDocument then return (nothing, { tokens := ts })
    else (value handles true false fuel).run { tokens := ts }
  | _ =>
    if version ∨ handles ≠ [] then none
    else if ts.isEmpty then return (nothing, { tokens := [] })
    else (value [] true false fuel).run { tokens := ts }

end Reader

/-- The value of a text that holds one document, as far as it is nested at most `depth` deep. -/
def read? (depth : Nat) (text : String) : Option Document := do
  let ts ← tokens? text
  let (y, s) ← Reader.document ts
  if (s.tokens.dropWhile Reader.isDocumentEnd).isEmpty then
    return y.document (s.values.lookup ·) depth
  else none

end ModuleClosure.Yaml
