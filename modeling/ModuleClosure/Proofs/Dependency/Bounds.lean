import ModuleClosure.Proofs.Bound
import ModuleClosure.Proofs.Dependency.List

/-!
# The bounds of dependency lists

The bounds of a list are those of its groups, in order. Each one is what its group states, the
longest sign and the version behind it, unless the group is a sign of two characters and nothing
else.
-/
namespace ModuleClosure.Dependency
open Text

variable {number : Nat} {value : String} {ps : List Piece} {ds : List Dependency}

theorem Fits.bounds {behind : Bool} (h : Fits behind ps)
    (hbounded : ∀ inner ∈ groups ps, ∃ b, Bound.ofText? inner = some b) :
    List.Forall₂ (fun inner b => Bound.ofText? inner = some b) (groups ps)
      ((boundNext ps).toList ++ (entries ps).filterMap (·.bound)) := by
  induction ps generalizing behind with
  | nil => exact .nil
  | cons p ps ih =>
    cases p with
    | word name =>
      have := ih h hbounded
      cases hnext : boundNext ps <;> simpa [groups, boundNext, entries, hnext] using this
    | blanks gap => exact ih h hbounded
    | group inner =>
      obtain ⟨⟨b, hb⟩, hbounded⟩ := List.forall_mem_cons.mp hbounded
      have hrest := ih h.2 hbounded
      rw [h.2.boundNext_eq_none] at hrest
      simpa [groups, boundNext, entries, hb] using hrest

/-- The bounds of a list are read from its groups, in order. -/
theorem bounds_of_readList (hmade : Made value.toList ps)
    (h : Description.readList number value = .ok ds) :
    List.Forall₂ (fun inner b => Bound.ofText? inner = some b) (groups ps)
      (ds.filterMap (·.bound)) := by
  obtain ⟨qs, hlist, rfl⟩ := listed_iff.mp (readList_line_eq_ok_iff.mp h)
  obtain ⟨hqs, hfits, hbounded⟩ := isList_iff.mp hlist
  rw [hmade.unique hqs]
  simpa [hfits.boundNext_eq_none] using hfits.bounds hbounded

/-- A group without a bound has the whole list refused. -/
theorem readList_error_of_group {inner : List Char} (hmade : Made value.toList ps)
    (hinner : inner ∈ groups ps) (hnone : Bound.ofText? inner = none) :
    ∃ fault, Description.readList number value = .error (.descriptionLine number fault) := by
  refine exists_readList_line_eq_error_iff.mpr fun ds hds => ?_
  obtain ⟨qs, hlist, -⟩ := listed_iff.mp hds
  rw [hmade.unique hlist.made] at hinner
  obtain ⟨b, hb⟩ := hlist.bounded inner hinner
  rw [hnone] at hb
  cases hb

/-- In a list that is read, the bound of a group is what the group states, the longest sign that it
starts with and all that follows as the version, exactly if the group is no bare sign of two
characters; such a sign is split into a sign and the version `=`. A bare sign of one character has
the list refused. -/
theorem readList_states (hmade : Made value.toList ps) :
    (∀ ds, Description.readList number value = .ok ds →
      List.Forall₂ (fun inner b => (Bound.States inner b ↔ ¬ Bound.IsDoubleSign inner) ∧
        (Bound.IsDoubleSign inner → Bound.Splits inner b))
        (groups ps) (ds.filterMap (·.bound))) ∧
    ∀ inner ∈ groups ps, (∃ c, Comparison.ofText? (String.ofList (trim inner)) = some c) →
      ¬ Bound.IsDoubleSign inner →
        ∃ fault, Description.readList number value = .error (.descriptionLine number fault) := by
  constructor
  · intro ds h
    refine (bounds_of_readList hmade h).imp fun inner b hb => ?_
    rcases Bound.states_or_splits hb with hstates | ⟨hdouble, hsplits⟩
    · have hdouble : ¬ Bound.IsDoubleSign inner := fun h =>
        Bound.not_states_of_sign h.isSign hstates
      exact ⟨iff_of_true hstates hdouble, fun h => absurd h hdouble⟩
    · have hstates : ¬ Bound.States inner b := Bound.not_states_of_sign hdouble.isSign
      exact ⟨iff_of_false hstates (not_not.mpr hdouble), fun _ => hsplits⟩
  · intro inner hinner hsign hdouble
    refine readList_error_of_group hmade hinner (Option.eq_none_iff_forall_ne_some.mpr ?_)
    intro b hb
    rcases Bound.states_or_splits hb with hstates | ⟨h, -⟩
    · exact Bound.not_states_of_sign hsign hstates
    · exact hdouble h

theorem readList_states_mixed :
    Made "a (>= 1) b(==)".toList [.word ['a'], .blanks [' '], .group ['>', '=', ' ', '1'],
        .blanks [' '], .word ['b'], .group ['=', '=']] ∧
      Description.readList 1 "a (>= 1) b(==)" =
        .ok [⟨"a", some ⟨.atLeast, "1"⟩⟩, ⟨"b", some ⟨.equal, "="⟩⟩] ∧
      Bound.States ['>', '=', ' ', '1'] ⟨.atLeast, "1"⟩ ∧
      Bound.Splits ['=', '='] ⟨.equal, "="⟩ ∧
      Made "a(< )".toList [.word ['a'], .group ['<', ' ']] ∧
      ∃ fault, Description.readList 1 "a(< )" = .error (.descriptionLine 1 fault) := by
  have hmade : Made "a (>= 1) b(==)".toList [.word ['a'], .blanks [' '],
      .group ['>', '=', ' ', '1'], .blanks [' '], .word ['b'], .group ['=', '=']] := by decide
  have hread : Description.readList 1 "a (>= 1) b(==)" =
      .ok [⟨"a", some ⟨.atLeast, "1"⟩⟩, ⟨"b", some ⟨.equal, "="⟩⟩] := by decide +kernel
  have hbare : Made "a(< )".toList [.word ['a'], .group ['<', ' ']] := by decide
  obtain ⟨hfirst, hrest⟩ := List.forall₂_cons.mp ((readList_states hmade).1 _ hread)
  obtain ⟨hsecond, -⟩ := List.forall₂_cons.mp hrest
  exact ⟨hmade, hread, hfirst.1.mpr (by decide), hsecond.2 (by decide), hbare,
    (readList_states hbare).2 ['<', ' '] (by decide) ⟨.below, by decide⟩ (by decide)⟩

/-- A sign without a version is read: `>=` as the sign `>` and the version `=`. -/
theorem exists_bound_of_bare_sign :
    Made "a (>=)".toList [.word ['a'], .blanks [' '], .group ['>', '=']] ∧
      Description.readList 1 "a (>=)" = .ok [⟨"a", some ⟨.above, "="⟩⟩] ∧
      ¬ Bound.States ['>', '='] ⟨.above, "="⟩ :=
  ⟨by decide, by decide +kernel, Bound.not_states_of_sign ⟨.atLeast, by decide⟩⟩

end ModuleClosure.Dependency
