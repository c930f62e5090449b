import ModuleClosure.FileTree

/-!
# Paths in a tree

A path is followed entry by entry. It ends early where an entry is missing, and it ends in another
way where a file stands on it. What was put at a path is gone without a trace once the path is
removed, and a new entry that is put into a directory and removed again leaves the directory as it
was. Directories that were there before something new was put stay, with the entries they had.
-/
namespace ModuleClosure.FileTree

variable {t u : FileTree} {name : String} {path : List String}

theorem find?_append (t : FileTree) (path rest : List String) :
    t.find? (path ++ rest) = (t.find? path).bind (·.find? rest) := by
  induction path generalizing t with
  | nil => rfl
  | cons name path ih =>
    rw [List.cons_append, find?, find?, Option.bind_assoc]
    exact Option.bind_congr fun sub _ => ih sub

theorem find?_concat {es : List (String × FileTree)} (h : t.find? path = some (directory es))
    (name : String) : t.find? (path ++ [name]) = es.lookup name := by
  rw [find?_append, h, Option.bind_some, find?]
  exact Option.bind_fun_some _

/-- What stands at a path, or why nothing does: an entry is missing, or a file is in the way. -/
def reach : FileTree → List String → Except FileFault FileTree
  | t, [] => .ok t
  | file _, _ :: _ => .error .notDirectory
  | directory es, name :: path =>
    match es.lookup name with
    | none => .error .missing
    | some sub => sub.reach path

theorem fault_of_reach {fault : FileFault} (h : t.reach path = .error fault) :
    fault = .missing ∨ fault = .notDirectory := by
  induction path generalizing t with
  | nil => cases h
  | cons name path ih =>
    cases t with
    | file content =>
      cases h
      exact .inr rfl
    | directory es =>
      rw [reach] at h
      split at h
      · cases h
        exact .inl rfl
      · exact ih h

theorem lookup_setEntry (name : String) (t : FileTree) (es : List (String × FileTree)) :
    (setEntry name t es).lookup name = some t := by
  induction es with
  | nil => simp [setEntry]
  | cons e es ih =>
    by_cases h : e.1 = name
    · simp [setEntry, h]
    · have hne : (name == e.1) = false := by simpa using Ne.symm h
      rw [setEntry, if_neg h, List.lookup_cons, hne]
      exact ih

theorem setEntry_setEntry (name : String) (t u : FileTree) (es : List (String × FileTree)) :
    setEntry name u (setEntry name t es) = setEntry name u es := by
  induction es with
  | nil => simp [setEntry]
  | cons e es ih =>
    by_cases h : e.1 = name
    · simp [setEntry, h]
    · simp [setEntry, h, ih]

theorem filter_setEntry (name : String) (t : FileTree) (es : List (String × FileTree)) :
    (setEntry name t es).filter (fun e => e.1 ≠ name) = es.filter fun e => e.1 ≠ name := by
  induction es with
  | nil => simp [setEntry]
  | cons e es ih =>
    by_cases h : e.1 = name
    · simp [setEntry, h]
    · rw [setEntry, if_neg h, List.filter_cons, List.filter_cons, ih]

theorem put_cons (t new : FileTree) (name : String) (path : List String) :
    t.put new (name :: path) =
      directory (setEntry name (((t.entry? name).getD empty).put new path) t.entries) := by
  rw [put]

theorem getEntry_put_cons (t new : FileTree) (name : String) (path : List String) :
    FileTree.entry? (t.put new (name :: path)) name =
      some (((t.entry? name).getD empty).put new path) := by
  rw [put_cons]
  exact lookup_setEntry ..

theorem put_put (t a b : FileTree) (path : List String) :
    (t.put a path).put b path = t.put b path := by
  induction path generalizing t with
  | nil => rfl
  | cons name path ih =>
    rw [put_cons (t.put a (name :: path)), getEntry_put_cons, Option.getD_some, ih, put_cons t a,
      put_cons t b]
    exact congrArg directory (setEntry_setEntry ..)

theorem remove_cons (h : t.entry? name = some u) (hpath : path ≠ []) :
    t.remove (name :: path) = directory (setEntry name (u.remove path) t.entries) := by
  cases path with
  | nil => exact absurd rfl hpath
  | cons next path => simp only [remove, h]

/-- What was put at a path does not matter once the path is removed. -/
theorem remove_put (hpath : path ≠ []) (t a b : FileTree) :
    (t.put a path).remove path = (t.put b path).remove path := by
  induction path generalizing t with
  | nil => exact absurd rfl hpath
  | cons name path ih =>
    by_cases hlast : path = []
    · subst hlast
      rw [put_cons, put_cons, remove, remove]
      exact congrArg directory
        ((filter_setEntry name _ t.entries).trans (filter_setEntry name _ t.entries).symm)
    · rw [remove_cons (getEntry_put_cons t a name path) hlast,
        remove_cons (getEntry_put_cons t b name path) hlast, ih hlast, put_cons, put_cons]
      exact congrArg directory ((setEntry_setEntry ..).trans (setEntry_setEntry ..).symm)

/-- The entries of what stands at a path, none if nothing or a file stands there. -/
def held (t : FileTree) (path : List String) : List (String × FileTree) :=
  ((t.find? path).map entries).getD []

theorem find?_cons (h : t.entry? name = some u) (path : List String) :
    t.find? (name :: path) = u.find? path := by
  rw [find?, h, Option.bind_some]

theorem directory_entries (h : t.entry? name = some u) : directory t.entries = t := by
  cases t with
  | file content => cases h
  | directory es => rfl

theorem setEntry_of_lookup {es : List (String × FileTree)} (h : es.lookup name = some t) :
    setEntry name t es = es := by
  induction es with
  | nil => cases h
  | cons e es ih =>
    by_cases hname : e.1 = name
    · have hself : (name == e.1) = true := by simpa using hname.symm
      rw [List.lookup_cons, hself] at h
      obtain rfl := Option.some.inj h
      rw [setEntry, if_pos hname, ← hname]
    · have hne : (name == e.1) = false := by simpa using Ne.symm hname
      rw [List.lookup_cons, hne] at h
      rw [setEntry, if_neg hname, ih h]

theorem lookup_setEntry_of_ne {other : String} (h : other ≠ name) (t : FileTree)
    (es : List (String × FileTree)) : (setEntry name t es).lookup other = es.lookup other := by
  induction es with
  | nil => simp [setEntry, h]
  | cons e es ih =>
    by_cases hname : e.1 = name
    · have hother : (other == name) = false := by simpa using h
      have hother' : (other == e.1) = false := by simpa [hname] using h
      rw [setEntry, if_pos hname, List.lookup_cons, List.lookup_cons, hother, hother']
    · rw [setEntry, if_neg hname, List.lookup_cons, List.lookup_cons, ih]

theorem getEntry_put_cons_of_ne {other : String} (h : other ≠ name) (t u : FileTree)
    (path : List String) : FileTree.entry? (t.put u (name :: path)) other = t.entry? other := by
  rw [put_cons]
  exact lookup_setEntry_of_ne h ..

theorem find?_put (t u : FileTree) (path : List String) : (t.put u path).find? path = some u := by
  induction path generalizing t with
  | nil => rfl
  | cons name path ih => rw [find?_cons (getEntry_put_cons t u name path), ih]

/-- To put at a path what stands there changes nothing. -/
theorem put_of_find? (h : t.find? path = some u) : t.put u path = t := by
  induction path generalizing t with
  | nil => exact (Option.some.inj h).symm
  | cons name path ih =>
    obtain ⟨sub, hsub, hfind⟩ := Option.bind_eq_some_iff.mp h
    rw [put_cons, hsub, Option.getD_some, ih hfind, setEntry_of_lookup hsub,
      directory_entries hsub]

theorem held_empty (path : List String) : empty.held path = [] := by
  cases path <;> rfl

theorem held_cons (t : FileTree) (name : String) (path : List String) :
    t.held (name :: path) = ((t.entry? name).getD empty).held path := by
  cases h : t.entry? name with
  | some u => rw [held, find?_cons h, Option.getD_some, held]
  | none =>
    rw [Option.getD_none, held_empty, held, find?, h]
    rfl

/-- What is put under a new name and removed again leaves a directory with the entries from
before. -/
theorem remove_put_concat (h : name ∉ (t.held path).map Prod.fst) (new : FileTree) :
    (t.put new (path ++ [name])).remove (path ++ [name]) =
      t.put (directory (t.held path)) path := by
  induction path generalizing t with
  | nil =>
    have hkept : t.entries.filter (fun e => e.1 ≠ name) = t.entries :=
      List.filter_eq_self.mpr fun e he => by
        have hne : e.1 ≠ name := by
          rintro rfl
          exact h (List.mem_map_of_mem he)
        simpa using hne
    rw [List.nil_append, put_cons, remove]
    exact congrArg directory ((filter_setEntry ..).trans hkept)
  | cons first path ih =>
    rw [held_cons] at h ⊢
    rw [List.cons_append, remove_cons (getEntry_put_cons t new first _) (by simp), ih h, put_cons,
      put_cons]
    exact congrArg directory (setEntry_setEntry ..)

theorem held_of_find? (h : t.find? path = some u) : t.held path = u.entries := by
  rw [held, h]
  rfl

theorem held_put (t u : FileTree) (path : List String) : (t.put u path).held path = u.entries :=
  held_of_find? (find?_put t u path)

/-- Below a path at which an empty directory was put nothing stands. -/
theorem held_put_empty (t : FileTree) {rest : List String} (h : path <+: rest) :
    (t.put empty path).held rest = [] := by
  obtain ⟨rest, rfl⟩ := h
  rw [held, find?_append, find?_put, Option.bind_some]
  exact held_empty rest

/-- Entries that keep at least the names of others. -/
def Extends (es es' : List (String × FileTree)) : Prop :=
  ∀ name, (es.lookup name).isSome → (es'.lookup name).isSome

/-- Each directory of a tree is also one of another, with at least the entries it has. -/
def Grows (t u : FileTree) : Prop :=
  ∀ path es, t.find? path = some (directory es) →
    ∃ es', u.find? path = some (directory es') ∧ Extends es es'

/-- A tree grows where something is put that was not there. -/
theorem grows_put {place : List String} (hnew : t.find? place = none) (u : FileTree) :
    Grows t (t.put u place) := by
  intro path es h
  induction place generalizing t path with
  | nil => cases hnew
  | cons first place ih =>
    cases path with
    | nil =>
      obtain rfl := Option.some.inj h
      refine ⟨(put (directory es) u (first :: place)).entries, by rw [put_cons]; rfl, ?_⟩
      intro name hname
      by_cases hfirst : name = first
      · subst hfirst
        exact Option.isSome_of_eq_some (getEntry_put_cons ..)
      · exact (congrArg Option.isSome (getEntry_put_cons_of_ne hfirst ..)).trans hname
    | cons name path =>
      obtain ⟨sub, hsub, hfind⟩ := Option.bind_eq_some_iff.mp h
      by_cases hname : name = first
      · subst hname
        rw [find?_cons hsub] at hnew
        obtain ⟨es', hes', hextends⟩ := ih hnew path hfind
        refine ⟨es', ?_, hextends⟩
        rw [find?_cons (getEntry_put_cons ..), hsub]
        exact hes'
      · refine ⟨es, ?_, fun _ => id⟩
        rw [find?_cons ((getEntry_put_cons_of_ne hname ..).trans hsub)]
        exact hfind

end ModuleClosure.FileTree
