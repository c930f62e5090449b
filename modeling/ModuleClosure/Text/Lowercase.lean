import ModuleClosure.Text.Casing

/-!
# Lower-case form of a text

A capital sigma that ends a word becomes a final sigma: it has a letter with case before it and
none behind it, characters without weight passed over.
-/
namespace ModuleClosure.Text

/-- Whether the first character that is not passed over is a letter with case. -/
def startsCased (s : List Char) : Bool :=
  match s.dropWhile fun c => inRanges passedRanges c.toNat with
  | [] => false
  | c :: _ => inRanges casedRanges c.toNat

/-- The lower-case form of the rest of a text; `before` is what precedes it, nearest first. -/
def lowercaseAfter (before : List Char) : List Char → List Char
  | [] => []
  | c :: r =>
    let here :=
      if c = 'Σ' then [if startsCased before && !startsCased r then 'ς' else 'σ']
      else lowerChar c
    here ++ lowercaseAfter (c :: before) r

def lowercase (s : List Char) : List Char := lowercaseAfter [] s

end ModuleClosure.Text
