import ModuleClosure.Source.Clones

/-!
# Fetching from an address

A fetch goes to one address or to none. With one it says so before anything else, it gives git the
two requests for that address, in order and at most once, and it has no description before both
are done. With none it changes nothing.
-/
namespace ModuleClosure.Source.Clones

variable {c : Clones} {name address : String} {found : Except Failure String}

/-- What was given to git is a first part of what there was to give. -/
theorem give_requests (c : Clones) (programs : Git.Programs) (name : String) (tree : FileTree)
    (elapsed : Nat) (rs : List Git.Request) :
    (c.give programs name tree elapsed rs).requests <+: rs := by
  induction rs generalizing tree elapsed with
  | nil => exact List.nil_prefix
  | cons r rs ih =>
    have hone : [r] <+: r :: rs := List.prefix_append [r] rs
    rw [give]
    split
    · exact List.nil_prefix
    · dsimp only
      split
      · exact hone
      · split
        · exact (List.prefix_cons_inj r).mpr (ih _ _)
        · exact hone

/-- Requests that all succeed were all given. -/
theorem give_requests_of_ok {programs : Git.Programs} {tree : FileTree} {elapsed : Nat}
    {rs : List Git.Request} (h : (c.give programs name tree elapsed rs).outcome = .ok ()) :
    (c.give programs name tree elapsed rs).requests = rs := by
  induction rs generalizing tree elapsed with
  | nil => rfl
  | cons r rs ih =>
    rw [give] at h ⊢
    split at h
    · cases h
    · dsimp only at h ⊢
      split at h
      · cases h
      · split at h
        · rw [if_neg ‹_›, if_pos ‹_›]
          exact congrArg (r :: ·) (ih h)
        · cases h

theorem Attempt.outcome_of_finish {a : Attempt} {d : Description} (h : (a.finish name).1 = .ok d) :
    a.outcome = .ok () := by
  rw [finish] at h
  split at h
  · cases h
  · assumption

/-- Where a fetch of a module goes: to an address, or nowhere with a failure. -/
def GoesTo (c : Clones) (name : String) : Except Failure String → Prop
  | .ok address => ∀ programs s, ∃ notices transient spot made,
      (c.fetch programs name s).notices = .fetchBegun name address :: notices ∧
      (c.fetch programs name s).state.requests = s.requests ++ made ∧
      made <+: requestsFor transient spot address name ∧
      ∀ d, (c.fetch programs name s).outcome = .ok d →
        made = requestsFor transient spot address name
  | .error failure => ∀ programs s,
      c.fetch programs name s = { outcome := .error failure, state := s }

theorem goesTo_resolve (hplain : isPlain name = true) :
    c.GoesTo name (c.book.resolve c.hints name) := by
  cases h : c.book.resolve c.hints name with
  | error failure =>
    intro programs s
    rw [fetch, if_pos hplain, h]
  | ok address =>
    intro programs s
    rw [fetch, if_pos hplain, h]
    dsimp only
    split
    · exact ⟨[], "", [], [], rfl, (List.append_nil _).symm, List.nil_prefix, nofun⟩
    · exact ⟨_, _, _, _, rfl, rfl, give_requests c programs name .empty 0 _,
        fun d hd => give_requests_of_ok (Attempt.outcome_of_finish hd)⟩

/-- A fetch does not go to two places. -/
theorem GoesTo.unique {found' : Except Failure String} (h : c.GoesTo name found)
    (h' : c.GoesTo name found') : found = found' := by
  cases found with
  | error failure =>
    have hfail := h (fun _ => .missing) {}
    cases found' with
    | error failure' =>
      cases hfail.symm.trans (h' (fun _ => .missing) {})
      rfl
    | ok address' =>
      obtain ⟨notices, _, _, _, hbegun, -⟩ := h' (fun _ => .missing) {}
      cases (congrArg Reply.notices hfail).symm.trans hbegun
  | ok address =>
    obtain ⟨notices, _, _, _, hbegun, -⟩ := h (fun _ => .missing) {}
    cases found' with
    | error failure' =>
      cases (congrArg Reply.notices (h' (fun _ => .missing) {})).symm.trans hbegun
    | ok address' =>
      obtain ⟨notices', _, _, _, hbegun', -⟩ := h' (fun _ => .missing) {}
      cases hbegun.symm.trans hbegun'
      rfl

/-- A fetch of a plain name goes where the name is resolved to. -/
theorem goesTo_iff (hplain : isPlain name = true) :
    c.GoesTo name found ↔ c.book.resolve c.hints name = found :=
  ⟨fun h => (goesTo_resolve hplain).unique h, fun h => h ▸ goesTo_resolve hplain⟩

end ModuleClosure.Source.Clones
