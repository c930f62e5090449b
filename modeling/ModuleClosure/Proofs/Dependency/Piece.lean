import ModuleClosure.Dependency
import ModuleClosure.Proofs.Text.Run

/-!
# Pieces of dependency lists

A text is taken apart into words, blanks and groups in parentheses. Words and blanks reach as far as
they can, so that a text is taken apart in one way at most.
-/
namespace ModuleClosure.Dependency
open Text

inductive Piece
  | word (name : List Char)
  | blanks (gap : List Char)
  | group (inner : List Char)
deriving DecidableEq, Repr

/-- A word: some characters, neither blanks nor parentheses. -/
def IsName (name : List Char) : Prop := name ≠ [] ∧ ∀ c ∈ name, isNameChar c = true

def IsGap (gap : List Char) : Prop := ∀ c ∈ gap, isBlank c = true

/-- What may stand between two parentheses that belong together. -/
def IsInner (inner : List Char) : Prop := ∀ c ∈ inner, isParenthesis c = false

/-- The pieces of a text, in order. -/
inductive Made : List Char → List Piece → Prop
  | nil : Made [] []
  | word {name rest ps} (hname : IsName name) (hrest : Stops isNameChar rest) (h : Made rest ps) :
      Made (name ++ rest) (.word name :: ps)
  | blanks {gap rest ps} (hne : gap ≠ []) (hgap : IsGap gap) (hrest : Stops isBlank rest)
      (h : Made rest ps) : Made (gap ++ rest) (.blanks gap :: ps)
  | group {inner rest ps} (hinner : IsInner inner) (h : Made rest ps) :
      Made ('(' :: (inner ++ ')' :: rest)) (.group inner :: ps)

variable {c : Char} {s t name gap inner rest : List Char} {ps qs : List Piece}

section Characters

theorem isNameChar_eq_true_iff :
    isNameChar c = true ↔ isBlank c = false ∧ isParenthesis c = false := by
  simp [isNameChar]

theorem isNameChar_of_isBlank (h : isBlank c = true) : isNameChar c = false := by
  simp [isNameChar, h]

theorem IsGap.not_isNameChar (h : IsGap gap) : ∀ c ∈ gap, isNameChar c = false :=
  fun c hc => isNameChar_of_isBlank (h c hc)

theorem IsName.not_isBlank (h : IsName name) : ∀ c ∈ name, isBlank c = false :=
  fun c hc => (isNameChar_eq_true_iff.mp (h.2 c hc)).1

theorem IsGap.append (h : IsGap gap) (ht : IsGap t) : IsGap (gap ++ t) :=
  List.forall_mem_append.mpr ⟨h, ht⟩

/-- A word starts with a character of a name. -/
theorem IsName.exists_cons (h : IsName name) : ∃ c r, name = c :: r ∧ isNameChar c = true := by
  obtain ⟨c, r, rfl⟩ := List.exists_cons_of_ne_nil h.1
  exact ⟨c, r, rfl, h.2 c List.mem_cons_self⟩

theorem IsName.stops (h : IsName name) : Stops isBlank (name ++ rest) := by
  obtain ⟨c, r, rfl, hc⟩ := h.exists_cons
  exact stops_cons.mpr (isNameChar_eq_true_iff.mp hc).1

end Characters

section Computed

instance : Decidable (IsName name) :=
  decidable_of_iff (name ≠ [] ∧ name.all isNameChar = true) (and_congr_right' List.all_eq_true)

instance : Decidable (IsGap gap) := decidable_of_iff (gap.all isBlank = true) List.all_eq_true

instance : Decidable (IsInner inner) :=
  decidable_of_iff (inner.all (fun c => !isParenthesis c) = true) (by simp [IsInner])

/-- The text that pieces stand for. -/
def textOf : List Piece → List Char
  | [] => []
  | .word name :: ps => name ++ textOf ps
  | .blanks gap :: ps => gap ++ textOf ps
  | .group inner :: ps => '(' :: (inner ++ ')' :: textOf ps)

/-- Pieces that are found again in their text. -/
def Parted : List Piece → Prop
  | [] => True
  | .word name :: ps => IsName name ∧ Stops isNameChar (textOf ps) ∧ Parted ps
  | .blanks gap :: ps => (gap ≠ [] ∧ IsGap gap) ∧ Stops isBlank (textOf ps) ∧ Parted ps
  | .group inner :: ps => IsInner inner ∧ Parted ps

instance decidableParted : (ps : List Piece) → Decidable (Parted ps)
  | [] => .isTrue trivial
  | .word _ :: ps => @instDecidableAnd _ _ _ (@instDecidableAnd _ _ _ (decidableParted ps))
  | .blanks _ :: ps => @instDecidableAnd _ _ _ (@instDecidableAnd _ _ _ (decidableParted ps))
  | .group _ :: ps => @instDecidableAnd _ _ _ (decidableParted ps)

theorem made_iff : Made s ps ↔ s = textOf ps ∧ Parted ps := by
  constructor
  · intro h
    induction h with
    | nil => exact ⟨rfl, trivial⟩
    | word hname hrest _ ih =>
      obtain ⟨rfl, hps⟩ := ih
      exact ⟨rfl, hname, hrest, hps⟩
    | blanks hne hgap hrest _ ih =>
      obtain ⟨rfl, hps⟩ := ih
      exact ⟨rfl, ⟨hne, hgap⟩, hrest, hps⟩
    | group hinner _ ih =>
      obtain ⟨rfl, hps⟩ := ih
      exact ⟨rfl, hinner, hps⟩
  · rintro ⟨rfl, h⟩
    induction ps with
    | nil => exact .nil
    | cons p ps ih =>
      cases p with
      | word name => exact .word h.1 h.2.1 (ih h.2.2)
      | blanks gap => exact .blanks h.1.1 h.1.2 h.2.1 (ih h.2.2)
      | group inner => exact .group h.1 (ih h.2)

instance : Decidable (Made s ps) := decidable_of_iff _ made_iff.symm

end Computed

/-- A group is cut off at its closing parenthesis. -/
theorem cut_group (rest : List Char) (h : IsInner inner) :
    (inner ++ ')' :: rest).takeWhile (fun c => !isParenthesis c) = inner ∧
      (inner ++ ')' :: rest).dropWhile (fun c => !isParenthesis c) = ')' :: rest :=
  cut_run (by simpa [IsInner] using h) (stops_cons.mpr rfl)

/-- The first piece of a text, told by its first character, and what follows. -/
def first? : List Char → Option (Piece × List Char)
  | [] => none
  | c :: r =>
    if isNameChar c then
      some (.word ((c :: r).takeWhile isNameChar), (c :: r).dropWhile isNameChar)
    else if isBlank c then
      some (.blanks ((c :: r).takeWhile isBlank), (c :: r).dropWhile isBlank)
    else
      some (.group (r.takeWhile fun c => !isParenthesis c),
        (r.dropWhile fun c => !isParenthesis c).tail)

theorem Made.first {p : Piece} (h : Made s (p :: ps)) :
    ∃ rest, first? s = some (p, rest) ∧ Made rest ps := by
  cases h with
  | @word name rest _ hname hrest h =>
    refine ⟨rest, ?_, h⟩
    obtain ⟨htake, hdrop⟩ := cut_run hname.2 hrest
    obtain ⟨c, r, rfl, hc⟩ := hname.exists_cons
    rw [List.cons_append] at htake hdrop ⊢
    rw [first?, if_pos hc, htake, hdrop]
  | @blanks gap rest _ hne hgap hrest h =>
    refine ⟨rest, ?_, h⟩
    obtain ⟨htake, hdrop⟩ := cut_run hgap hrest
    obtain ⟨c, r, rfl⟩ := List.exists_cons_of_ne_nil hne
    have hc : isBlank c = true := hgap c List.mem_cons_self
    rw [List.cons_append] at htake hdrop ⊢
    rw [first?, if_neg (by simp [isNameChar_of_isBlank hc]), if_pos hc, htake, hdrop]
  | @group inner rest _ hinner h =>
    refine ⟨rest, ?_, h⟩
    obtain ⟨htake, hdrop⟩ := cut_group rest hinner
    rw [first?, if_neg (by decide), if_neg (by decide), htake, hdrop, List.tail_cons]

/-- A text is taken apart in one way at most. -/
theorem Made.unique (h : Made s ps) (h' : Made s qs) : ps = qs := by
  induction ps generalizing s qs with
  | nil =>
    cases h
    cases qs with
    | nil => rfl
    | cons q qs =>
      obtain ⟨rest, hfirst, -⟩ := h'.first
      cases hfirst
  | cons p ps ih =>
    obtain ⟨rest, hfirst, hps⟩ := h.first
    cases qs with
    | nil =>
      cases h'
      cases hfirst
    | cons q qs =>
      obtain ⟨rest', hfirst', hqs⟩ := h'.first
      cases hfirst.symm.trans hfirst'
      rw [ih hps hqs]

end ModuleClosure.Dependency
