import Mathlib.Data.List.Basic
import ModuleClosure.Description.Reader
import ModuleClosure.Proofs.Dependency.Piece

/-!
# The grammar of dependency lists

A dependency list consists of words, blanks and groups. Each group stands right behind a word,
blanks aside, and holds a bound. The entries are the words, each with the bound of the group behind
it.
Reading a list accepts exactly these texts, and refuses all others with the number of the line.
-/
namespace ModuleClosure.Dependency
open Text

/-- The texts of dependency lists, entry by entry. -/
inductive Listed : List Char → List Dependency → Prop
  | nil {gap} (hgap : IsGap gap) : Listed gap []
  | plain {gap name rest ds} (hgap : IsGap gap) (hname : IsName name)
      (hrest : Stops isNameChar rest) (h : Listed rest ds) :
      Listed (gap ++ (name ++ rest)) (⟨String.ofList name, none⟩ :: ds)
  | bounded {gap name between inner rest b ds} (hgap : IsGap gap) (hname : IsName name)
      (hbetween : IsGap between) (hinner : IsInner inner) (hb : Bound.ofText? inner = some b)
      (h : Listed rest ds) :
      Listed (gap ++ (name ++ (between ++ '(' :: (inner ++ ')' :: rest))))
        (⟨String.ofList name, some b⟩ :: ds)

variable {s t name gap between inner rest : List Char} {ps : List Piece} {d : Dependency}
  {ds : List Dependency}

section Reading

/-- A group is found behind blanks. -/
theorem group?_eq_some_iff : group? s = some (inner, rest) ↔
    ∃ gap, s = gap ++ '(' :: (inner ++ ')' :: rest) ∧ IsGap gap ∧ IsInner inner := by
  constructor
  · intro h
    unfold group? at h
    split at h
    · rename_i r hr
      split at h
      · rename_i rest' hrest
        cases h
        refine ⟨s.takeWhile isBlank, ?_, fun c hc => List.mem_takeWhile_imp hc, fun c hc => ?_⟩
        · rw [← hrest, List.takeWhile_append_dropWhile, ← hr, trimStart,
            List.takeWhile_append_dropWhile]
        · simpa using List.mem_takeWhile_imp hc
      · cases h
    · cases h
  · rintro ⟨gap, rfl, hgap, hinner⟩
    have htrim : trimStart (gap ++ '(' :: (inner ++ ')' :: rest)) = '(' :: (inner ++ ')' :: rest) :=
      (cut_run hgap (stops_cons.mpr rfl)).2
    obtain ⟨htake, hdrop⟩ := cut_group rest hinner
    simp only [group?, htrim, hdrop, htake]

theorem group?_eq_none_of_stops (h : Stops (· == '(') (trimStart s)) : group? s = none := by
  unfold group?
  split
  · rename_i r hr
    rw [hr] at h
    exact absurd (stops_cons.mp h) (by decide)
  · rfl

/-- The first character of a list that is no blank is no parenthesis. -/
theorem Listed.group?_eq_none (h : Listed s ds) : group? s = none := by
  have hentry {gap name rest : List Char} (hgap : IsGap gap) (hname : IsName name) :
      group? (gap ++ (name ++ rest)) = none := by
    apply group?_eq_none_of_stops
    rw [trimStart, (cut_run hgap hname.stops).2]
    obtain ⟨c, r, rfl, hc⟩ := hname.exists_cons
    refine stops_cons.mpr (beq_eq_false_iff_ne.mpr ?_)
    rintro rfl
    cases hc
  cases h with
  | nil hgap =>
    apply group?_eq_none_of_stops
    rw [trimStart, List.dropWhile_eq_nil_iff.mpr hgap]
    exact stops_nil
  | plain hgap hname _ _ => exact hentry hgap hname
  | bounded hgap hname _ _ _ _ => exact hentry hgap hname

theorem readList_gap (h : IsGap gap) : readList gap = .ok [] := by
  have hdrop : gap.dropWhile (fun c => !isNameChar c) = [] :=
    List.dropWhile_eq_nil_iff.mpr fun c hc => by simp [isNameChar_of_isBlank (h c hc)]
  have htake : gap.takeWhile (fun c => !isNameChar c) = gap :=
    List.takeWhile_eq_self_iff.mpr fun c hc => by simp [isNameChar_of_isBlank (h c hc)]
  rw [readList, htake, List.all_eq_true.mpr h, Bool.not_true, if_neg Bool.false_ne_true]
  split
  · rfl
  · rename_i hcons
    cases hdrop.symm.trans hcons

/-- Reading an entry: a word, and the bound behind it. -/
theorem readList_entry (hgap : IsGap gap) (hname : IsName name) (hrest : Stops isNameChar rest) :
    readList (gap ++ (name ++ rest)) =
      match (boundAfter rest).1 with
      | .error fault => .error fault
      | .ok bound => (readList (boundAfter rest).2).map (⟨String.ofList name, bound⟩ :: ·) := by
  obtain ⟨c, r, rfl, hc⟩ := hname.exists_cons
  have hstops : Stops (fun c => !isNameChar c) (c :: (r ++ rest)) := stops_cons.mpr (by simp [hc])
  obtain ⟨htake, hdrop⟩ := cut_run (by simpa using hgap.not_isNameChar) hstops
  obtain ⟨htake', hdrop'⟩ := cut_run (fun x hx => hname.2 x (List.mem_cons_of_mem c hx)) hrest
  rw [List.cons_append, readList, htake, List.all_eq_true.mpr hgap, Bool.not_true,
    if_neg Bool.false_ne_true]
  split
  · rename_i hnil
    cases hdrop.symm.trans hnil
  · rename_i hcons
    cases hdrop.symm.trans hcons
    cases hbound : (boundAfter rest).1 with
    | error fault => simp only [hdrop', hbound]
    | ok bound => simp only [htake', hdrop', hbound]

/-- What is found behind a word: no group, and nothing is passed over, or a group with a bound. -/
theorem boundAfter_eq_iff {bound : Option Bound} : boundAfter s = (.ok bound, rest) ↔
    (bound = none ∧ group? s = none ∧ rest = s) ∨
      ∃ inner b, bound = some b ∧ group? s = some (inner, rest) ∧ Bound.ofText? inner = some b := by
  unfold boundAfter
  cases hg : group? s with
  | none => simp [eq_comm]
  | some found =>
    obtain ⟨inner, rest'⟩ := found
    cases hb : Bound.ofText? inner with
    | none => grind
    | some b => grind


theorem listed_of_readList : readList s = .ok ds → Listed s ds := by
  fun_induction readList s generalizing ds
  case case1 => exact nofun
  case case2 s gap hgap hdrop =>
    intro h
    cases h
    have hs : gap = s := by
      have := List.takeWhile_append_dropWhile (p := fun c => !isNameChar c) (l := s)
      rwa [hdrop, List.append_nil] at this
    rw [← hs]
    exact .nil (List.all_eq_true.mp (by simpa using hgap))
  case case3 => exact nofun
  case case4 s gap hgap c r hdrop name behind hlt bound hbehind ih =>
    intro h
    obtain ⟨ds, hds, rfl⟩ : ∃ ds', readList behind.2 = .ok ds' ∧ ⟨name, bound⟩ :: ds' = ds := by
      cases hrest : readList behind.2 with
      | error fault => simp [hrest, Except.map] at h
      | ok ds' => exact ⟨ds', rfl, by simpa [hrest, Except.map] using h⟩
    have hblank : IsGap gap := List.all_eq_true.mp (by simpa using hgap)
    have hname : IsName (c :: r.takeWhile isNameChar) := by
      have hstops : Stops (fun c => !isNameChar c) (c :: r) := hdrop ▸ stops_dropWhile s
      refine ⟨List.cons_ne_nil _ _, List.forall_mem_cons.mpr ⟨?_, fun x => List.mem_takeWhile_imp⟩⟩
      simpa using stops_cons.mp hstops
    have hs : s = gap ++ (c :: r.takeWhile isNameChar ++ r.dropWhile isNameChar) := by
      rw [List.cons_append, List.takeWhile_append_dropWhile, ← hdrop,
        List.takeWhile_append_dropWhile]
    rcases boundAfter_eq_iff.mp (Prod.ext hbehind rfl) with
      ⟨rfl, -, hrest⟩ | ⟨inner, b, rfl, hg, hb⟩
    · rw [hs]
      exact .plain hblank hname (stops_dropWhile r) (hrest ▸ ih hds)
    · obtain ⟨between, hr, hbetween, hinner⟩ := group?_eq_some_iff.mp hg
      rw [hs, hr]
      exact .bounded hblank hname hbetween hinner hb (ih hds)

theorem readList_of_listed (h : Listed s ds) : readList s = .ok ds := by
  induction h with
  | nil hgap => exact readList_gap hgap
  | @plain gap name rest ds hgap hname hrest h ih =>
    have hbehind : boundAfter rest = (.ok none, rest) :=
      boundAfter_eq_iff.mpr (.inl ⟨rfl, h.group?_eq_none, rfl⟩)
    rw [readList_entry hgap hname hrest, hbehind, ih]
    rfl
  | @bounded gap name between inner rest b ds hgap hname hbetween hinner hb h ih =>
    have hbehind : boundAfter (between ++ '(' :: (inner ++ ')' :: rest)) = (.ok (some b), rest) :=
      boundAfter_eq_iff.mpr
        (.inr ⟨inner, b, rfl, group?_eq_some_iff.mpr ⟨between, rfl, hbetween, hinner⟩, hb⟩)
    have hstops : Stops isNameChar (between ++ '(' :: (inner ++ ')' :: rest)) :=
      .append hbetween.not_isNameChar (stops_cons.mpr rfl)
    rw [readList_entry hgap hname hstops, hbehind, ih]
    rfl

/-- Reading a list accepts exactly what the grammar allows. -/
theorem readList_eq_ok_iff : readList s = .ok ds ↔ Listed s ds :=
  ⟨listed_of_readList, readList_of_listed⟩

end Reading

/-- The bound in the group that comes next, blanks passed over. -/
def boundNext : List Piece → Option Bound
  | .blanks _ :: ps => boundNext ps
  | .group inner :: _ => Bound.ofText? inner
  | _ => none

/-- The words in order, each with the bound in the group that follows it. -/
def entries : List Piece → List Dependency
  | [] => []
  | .word name :: ps => ⟨String.ofList name, boundNext ps⟩ :: entries ps
  | _ :: ps => entries ps

/-- The texts of the groups in order. -/
def groups : List Piece → List (List Char)
  | [] => []
  | .group inner :: ps => inner :: groups ps
  | _ :: ps => groups ps

/-- The last piece is a word, or else only blanks come after the last word. -/
def EndsInWord (ps : List Piece) : Prop :=
  ∃ front name gaps, ps = front ++ .word name :: gaps ∧ ∀ p ∈ gaps, ∃ gap, p = .blanks gap

/-- The pieces of a dependency list: each group stands right behind a word and holds a bound. -/
structure IsList (s : List Char) (ps : List Piece) : Prop where
  made : Made s ps
  attached : ∀ before inner after, ps = before ++ .group inner :: after → EndsInWord before
  bounded : ∀ inner ∈ groups ps, ∃ b, Bound.ofText? inner = some b

section Groups

theorem not_endsInWord_nil : ¬ EndsInWord [] := by
  rintro ⟨front, name, gaps, h, -⟩
  simp at h

theorem endsInWord_concat_word : EndsInWord (ps ++ [.word name]) :=
  ⟨ps, name, [], rfl, nofun⟩

theorem endsInWord_concat_blanks : EndsInWord (ps ++ [.blanks gap]) ↔ EndsInWord ps := by
  constructor
  · rintro ⟨front, name, gaps, h, hgaps⟩
    rcases List.eq_nil_or_concat' gaps with rfl | ⟨gaps, p, rfl⟩
    · simp at h
    · refine ⟨front, name, gaps, ?_, fun q hq => hgaps q (List.mem_append_left _ hq)⟩
      rw [← List.cons_append, ← List.append_assoc] at h
      exact (List.append_inj' h rfl).1
  · rintro ⟨front, name, gaps, rfl, hgaps⟩
    refine ⟨front, name, gaps ++ [.blanks gap], by simp, fun q hq => ?_⟩
    rcases List.mem_append.mp hq with hq | hq
    · exact hgaps q hq
    · exact ⟨gap, List.mem_singleton.mp hq⟩

theorem not_endsInWord_concat_group : ¬ EndsInWord (ps ++ [.group inner]) := by
  rintro ⟨front, name, gaps, h, hgaps⟩
  rcases List.eq_nil_or_concat' gaps with rfl | ⟨gaps, p, rfl⟩
  · simp at h
  · obtain ⟨gap, rfl⟩ := hgaps p (by simp)
    rw [← List.cons_append, ← List.append_assoc] at h
    cases List.append_inj_right' h rfl

/-- Whether groups stand right behind words, where `behind` tells it of a group that comes first. -/
def Fits (behind : Bool) : List Piece → Prop
  | [] => True
  | .word _ :: ps => Fits true ps
  | .blanks _ :: ps => Fits behind ps
  | .group _ :: ps => behind = true ∧ Fits false ps

private theorem forall_group_cons_iff {front : List Piece} {p : Piece} :
    (∀ before inner after, p :: ps = before ++ .group inner :: after →
        EndsInWord (front ++ before)) ↔
      ((∃ inner, p = .group inner) → EndsInWord front) ∧
        ∀ before inner after, ps = before ++ .group inner :: after →
          EndsInWord (front ++ [p] ++ before) := by
  constructor
  · refine fun h => ⟨fun ⟨inner, hp⟩ => ?_, fun before inner after hps => ?_⟩
    · simpa using h [] inner ps (by simp [hp])
    · simpa using h (p :: before) inner after (by simp [hps])
  · rintro ⟨hp, hps⟩ (_ | ⟨q, before⟩) inner after heq
    · simpa using hp ⟨inner, (List.cons.inj heq).1⟩
    · obtain ⟨rfl, htail⟩ := List.cons.inj heq
      simpa using hps before inner after htail

theorem fits_iff {front : List Piece} {behind : Bool} (hfront : EndsInWord front ↔ behind = true) :
    Fits behind ps ↔ ∀ before inner after, ps = before ++ .group inner :: after →
      EndsInWord (front ++ before) := by
  -- Of the pieces in `front`, only `behind` needs to be remembered.
  induction ps generalizing front behind with
  | nil => simp [Fits]
  | cons p ps ih =>
    rw [forall_group_cons_iff]
    cases p with
    | word name =>
      rw [← ih (iff_of_true endsInWord_concat_word rfl)]
      simp [Fits]
    | blanks gap =>
      rw [← ih (endsInWord_concat_blanks.trans hfront)]
      simp [Fits]
    | group inner =>
      rw [← ih (iff_of_false not_endsInWord_concat_group Bool.false_ne_true), hfront]
      simp [Fits]

theorem Fits.of_false (h : Fits false ps) (behind : Bool) : Fits behind ps := by
  cases behind with
  | false => exact h
  | true =>
    induction ps with
    | nil => trivial
    | cons p ps ih =>
      cases p with
      | word name => exact h
      | blanks gap => exact ih h
      | group inner => cases h.1

theorem Fits.boundNext_eq_none (h : Fits false ps) : boundNext ps = none := by
  induction ps with
  | nil => rfl
  | cons p ps ih =>
    cases p with
    | word name => rfl
    | blanks gap => exact ih h
    | group inner => cases h.1

end Groups

/-- Blanks as a piece, if there are any. -/
def blankPieces (gap : List Char) : List Piece := if gap = [] then [] else [.blanks gap]

section BlankPieces

theorem made_blankPieces_append (hgap : IsGap gap) (hrest : Stops isBlank rest)
    (h : Made rest ps) : Made (gap ++ rest) (blankPieces gap ++ ps) := by
  rw [blankPieces]
  split
  · rename_i hnil
    rwa [hnil]
  · exact .blanks ‹_› hgap hrest h

@[simp] theorem entries_blankPieces_append : entries (blankPieces gap ++ ps) = entries ps := by
  rw [blankPieces]
  split <;> rfl

@[simp] theorem groups_blankPieces_append : groups (blankPieces gap ++ ps) = groups ps := by
  rw [blankPieces]
  split <;> rfl

@[simp] theorem boundNext_blankPieces_append :
    boundNext (blankPieces gap ++ ps) = boundNext ps := by
  rw [blankPieces]
  split <;> rfl

@[simp] theorem fits_blankPieces_append {behind : Bool} :
    Fits behind (blankPieces gap ++ ps) ↔ Fits behind ps := by
  rw [blankPieces]
  split <;> rfl

end BlankPieces

theorem isList_iff : IsList s ps ↔
    Made s ps ∧ Fits false ps ∧ ∀ inner ∈ groups ps, ∃ b, Bound.ofText? inner = some b := by
  have hfits : Fits false ps ↔ ∀ before inner after, ps = before ++ .group inner :: after →
      EndsInWord before :=
    fits_iff (iff_of_false not_endsInWord_nil Bool.false_ne_true)
  exact ⟨fun h => ⟨h.made, hfits.mpr h.attached, h.bounded⟩,
    fun ⟨hmade, h, hbounded⟩ => ⟨hmade, hfits.mp h, hbounded⟩⟩

theorem Listed.exists_isList (h : Listed s ds) : ∃ ps, IsList s ps ∧ entries ps = ds := by
  simp only [isList_iff]
  induction h with
  | @nil gap hgap =>
    refine ⟨blankPieces gap ++ [], ⟨?_, ?_, ?_⟩, ?_⟩
    · simpa using made_blankPieces_append hgap stops_nil .nil
    · exact fits_blankPieces_append.mpr trivial
    · rw [groups_blankPieces_append]
      exact nofun
    · exact entries_blankPieces_append
  | @plain gap name rest ds hgap hname hrest h ih =>
    obtain ⟨ps, ⟨hmade, hfits, hbounded⟩, rfl⟩ := ih
    refine ⟨blankPieces gap ++ .word name :: ps, ⟨?_, ?_, ?_⟩, ?_⟩
    · exact made_blankPieces_append hgap hname.stops (.word hname hrest hmade)
    · simpa [Fits] using hfits.of_false true
    · simpa [groups] using hbounded
    · simp [entries, hfits.boundNext_eq_none]
  | @bounded gap name between inner rest b ds hgap hname hbetween hinner hb h ih =>
    obtain ⟨ps, ⟨hmade, hfits, hbounded⟩, rfl⟩ := ih
    refine ⟨blankPieces gap ++ .word name :: (blankPieces between ++ .group inner :: ps),
      ⟨?_, ?_, ?_⟩, ?_⟩
    · refine made_blankPieces_append hgap hname.stops (.word hname ?_ ?_)
      · exact .append hbetween.not_isNameChar (stops_cons.mpr rfl)
      · exact made_blankPieces_append hbetween (stops_cons.mpr rfl) (.group hinner hmade)
    · simpa [Fits] using hfits
    · simpa [groups] using ⟨⟨b, hb⟩, hbounded⟩
    · simp [entries, boundNext, hb]

/-- Blanks may come before a list. -/
theorem Listed.behind_gap (hgap : IsGap gap) (h : Listed s ds) : Listed (gap ++ s) ds := by
  cases h with
  | nil ht => exact .nil (hgap.append ht)
  | plain ht hname hrest h =>
    rw [← List.append_assoc]
    exact .plain (hgap.append ht) hname hrest h
  | bounded ht hname hbetween hinner hb h =>
    rw [← List.append_assoc]
    exact .bounded (hgap.append ht) hname hbetween hinner hb h

theorem Made.listed (h : Made s ps)
    (hbounded : ∀ inner ∈ groups ps, ∃ b, Bound.ofText? inner = some b) :
    (Fits false ps → Listed s (entries ps)) ∧
      ∀ name between, IsName name → IsGap between → Stops isNameChar (between ++ s) → Fits true ps →
        Listed (name ++ (between ++ s)) (⟨String.ofList name, boundNext ps⟩ :: entries ps) := by
  have hnil : IsGap [] := nofun
  -- The second part is about a word in front whose group may still come; `between` collects the
  -- blanks behind it.
  induction h with
  | nil =>
    refine ⟨fun _ => .nil hnil, fun name between hname hbetween hstops _ => ?_⟩
    exact (Listed.plain hnil hname hstops (.nil (by simpa using hbetween)) :)
  | @word name rest ps hname hrest h ih =>
    obtain ⟨-, hword⟩ := ih hbounded
    have hlisted (hfits : Fits true ps) := hword name [] hname hnil hrest hfits
    refine ⟨hlisted, fun name' between hname' hbetween hstops hfits => ?_⟩
    exact (Listed.plain hnil hname' hstops ((hlisted hfits).behind_gap hbetween) :)
  | @blanks gap rest ps hne hgap hrest h ih =>
    obtain ⟨hlist, hword⟩ := ih hbounded
    refine ⟨fun hfits => (hlist hfits).behind_gap hgap, ?_⟩
    intro name between hname hbetween hstops hfits
    rw [← List.append_assoc between] at hstops ⊢
    exact hword name (between ++ gap) hname (hbetween.append hgap) hstops hfits
  | @group inner rest ps hinner h ih =>
    obtain ⟨hb, hbounded⟩ := List.forall_mem_cons.mp hbounded
    obtain ⟨b, hb⟩ := hb
    obtain ⟨hlist, -⟩ := ih hbounded
    refine ⟨fun hfits => (Bool.false_ne_true hfits.1).elim, ?_⟩
    intro name between hname hbetween _ hfits
    rw [boundNext, hb]
    exact (Listed.bounded hnil hname hbetween hinner hb (hlist hfits.2) :)

/-- The grammar of lists, told by entries and told by pieces. -/
theorem listed_iff : Listed s ds ↔ ∃ ps, IsList s ps ∧ entries ps = ds := by
  refine ⟨Listed.exists_isList, ?_⟩
  rintro ⟨ps, h, rfl⟩
  obtain ⟨hmade, hfits, hbounded⟩ := isList_iff.mp h
  exact (hmade.listed hbounded).1 hfits

section Lines

variable {number : Nat} {value : String}

theorem readList_line_eq_ok_iff :
    Description.readList number value = .ok ds ↔ Listed value.toList ds := by
  rw [← readList_eq_ok_iff, Description.readList, Description.listOf]
  cases readList value.toList <;> simp [Except.mapError]

theorem exists_readList_line_eq_error_iff :
    (∃ fault, Description.readList number value = .error (.descriptionLine number fault)) ↔
      ∀ ds, ¬ Listed value.toList ds := by
  simp only [← readList_eq_ok_iff, Description.readList, Description.listOf]
  cases readList value.toList <;> simp [Except.mapError]

end Lines

/-- A value is read exactly if it consists of words, blanks and groups, each group right behind a
word and with a bound; its entries are the words with the bounds behind them. Every other value is
refused under the number of its line. -/
theorem readList_meaning (number : Nat) (value : String) :
    (∀ ds, Description.readList number value = .ok ds ↔
      ∃ ps, IsList value.toList ps ∧ entries ps = ds) ∧
    ((¬ ∃ ps, IsList value.toList ps) ↔
      ∃ fault, Description.readList number value = .error (.descriptionLine number fault)) := by
  refine ⟨fun ds => readList_line_eq_ok_iff.trans listed_iff, ?_⟩
  rw [exists_readList_line_eq_error_iff]
  constructor
  · rintro h ds hds
    obtain ⟨ps, hps, -⟩ := listed_iff.mp hds
    exact h ⟨ps, hps⟩
  · rintro h ⟨ps, hps⟩
    exact h (entries ps) (listed_iff.mpr ⟨ps, hps, rfl⟩)

example : Description.readList 3 "a(>= 1)b ( <2 )" =
    .ok [⟨"a", some ⟨.atLeast, "1"⟩⟩, ⟨"b", some ⟨.below, "2"⟩⟩] := by
  decide +kernel

end ModuleClosure.Dependency
