import ModuleClosure.Proofs.Disk

/-!
# Making directories

To make a directory is to add an empty one under a new name, where the path leads before that name.
Everything that a path led to before is still there, so a directory that could be made is there
afterwards, and one that was there is left alone with the whole disk. A path that never goes back
leads to nothing but what was made for it; with `..` in it, it may end in a directory that holds one
made on the way.
-/
namespace ModuleClosure.Disk

variable {d d' : Disk} {root root' : FileTree} {spot last before names : List String}
  {name : String} {p q : Path} {es : List (String × FileTree)}

/-- A name that is looked up in a directory. -/
structure IsLookedUp (name : String) : Prop where
  ne_empty : name ≠ ""
  ne_here : name ≠ "."
  ne_back : name ≠ ".."
  short : name.utf8ByteSize ≤ nameLimit

/-- Where one name leads from a directory with these entries. -/
inductive Passes (es : List (String × FileTree)) (spot : List String) : String → List String → Prop
  | stay {name : String} (h : name = "" ∨ name = ".") : Passes es spot name spot
  | back : Passes es spot ".." spot.dropLast
  | enter {name : String} (hname : IsLookedUp name) (hentry : (es.lookup name).isSome) :
    Passes es spot name (spot ++ [name])

theorem walk_cons_eq_ok_iff : walk root spot (name :: names) = .ok last ↔
    ∃ es next, root.find? spot = some (.directory es) ∧ Passes es spot name next ∧
      walk root next names = .ok last := by
  constructor
  · intro h
    rw [walk] at h
    split at h
    · cases h
    · cases h
    · rename_i es hspot
      refine ⟨es, ?_⟩
      split_ifs at h with hstay hback hlong hentry
      · exact ⟨spot, hspot, .stay hstay, h⟩
      · exact ⟨spot.dropLast, hspot, hback ▸ .back, h⟩
      · have hname : IsLookedUp name :=
          ⟨fun h => hstay (.inl h), fun h => hstay (.inr h), hback, Nat.not_lt.mp hlong⟩
        exact ⟨spot ++ [name], hspot, .enter hname (by simpa using hentry), h⟩
  · rintro ⟨es, next, hspot, hpass, h⟩
    rw [walk, hspot]
    cases hpass with
    | stay hstay => simpa [hstay] using h
    | back => simpa using h
    | enter hname hentry =>
      have hfound : (es.lookup name).isNone = false := by
        rw [← Option.not_isSome, hentry]
        rfl
      simpa [hname.ne_empty, hname.ne_here, hname.ne_back, Nat.not_lt.mpr hname.short, hfound]
        using h

/-- A path leads where it led, whatever is added to the tree. -/
theorem walk_of_grows (hgrows : root.Grows root') (h : walk root spot names = .ok last) :
    walk root' spot names = .ok last := by
  induction names generalizing spot with
  | nil => exact h
  | cons name names ih =>
    obtain ⟨es, next, hspot, hpass, hrest⟩ := walk_cons_eq_ok_iff.mp h
    obtain ⟨es', hspot', hextends⟩ := hgrows spot es hspot
    refine walk_cons_eq_ok_iff.mpr ⟨es', next, hspot', ?_, ih hrest⟩
    cases hpass with
    | stay hstay => exact .stay hstay
    | back => exact .back
    | enter hname hentry => exact .enter hname (hextends name hentry)

/-- The names of a path that are looked up, if it does not go back. -/
def lookedUp (names : List String) : List String := names.filter fun name => name ≠ "" ∧ name ≠ "."

/-- Without going back, a path leads down its names. -/
theorem eq_of_walk (hforth : ".." ∉ names) (h : walk root spot names = .ok last) :
    last = spot ++ lookedUp names := by
  induction names generalizing spot with
  | nil =>
    cases h
    simp [lookedUp]
  | cons name names ih =>
    obtain ⟨hne, hforth⟩ := not_or.mp (mt List.mem_cons.mpr hforth)
    obtain ⟨es, next, -, hpass, hrest⟩ := walk_cons_eq_ok_iff.mp h
    rw [ih hforth hrest]
    cases hpass with
    | stay hstay => rcases hstay with rfl | rfl <;> simp [lookedUp]
    | back => exact absurd rfl hne
    | enter hname => simp [lookedUp, hname.ne_empty, hname.ne_here]

theorem walk_of_follow (h : d.follow p names = .ok last) :
    walk d.root (d.start p) names = .ok last := by
  rw [follow] at h
  split_ifs at h
  exact h

/-- Whether a path can be given to the system does not depend on how much of it is followed. -/
theorem follow_of_walk (h : d.follow p before = .ok spot) (hstart : d'.start p = d.start p)
    (hwalk : walk d'.root (d.start p) names = .ok last) : d'.follow p names = .ok last := by
  rw [follow] at h ⊢
  split_ifs at h ⊢
  rw [hstart]
  exact hwalk

/-- What is needed to make a directory: before its last name the path leads to a directory, where
the name is new. Empty names at the end do not count. -/
structure Making (d : Disk) (p : Path) (before : List String) (name : String) (spot : List String)
    (es : List (String × FileTree)) : Prop where
  parts : ∃ count, p.parts = before ++ name :: List.replicate count ""
  lead : d.follow p before = .ok spot
  stands : d.root.find? spot = some (.directory es)
  new : es.lookup name = none
  isLookedUp : IsLookedUp name

/-- The disk with an empty directory at a place. -/
def withEmpty (d : Disk) (place : List String) : Disk := { d with root := d.root.put .empty place }

/-- The names of a path, without empty ones at the end. -/
theorem exists_parts (h : p.parts.reverse.dropWhile (· = "") = name :: before) :
    name ≠ "" ∧ ∃ count, p.parts = before.reverse ++ name :: List.replicate count "" := by
  have hname : name ≠ "" := by simpa [h] using p.parts.reverse.head?_dropWhile_not (· = "")
  have hblank : ∀ part ∈ p.parts.reverse.takeWhile (· = ""), part = "" := fun part hpart => by
    simpa using List.mem_takeWhile_imp hpart
  have hsplit := List.takeWhile_append_dropWhile (p := (· = "")) (l := p.parts.reverse)
  rw [h, List.eq_replicate_of_mem hblank] at hsplit
  refine ⟨hname, (p.parts.reverse.takeWhile (· = "")).length, ?_⟩
  simpa using congrArg List.reverse hsplit.symm

theorem canMake_eq_ok (h : d.canMake spot name = .ok ()) (hname : name ≠ "") :
    ∃ es, d.root.find? spot = some (.directory es) ∧ IsLookedUp name ∧ es.lookup name = none := by
  rw [canMake] at h
  split at h
  · cases h
  · cases h
  · rename_i es hspot
    split_ifs at h with hdots hlong hentry
    obtain ⟨hhere, hback⟩ := not_or.mp hdots
    exact ⟨es, hspot, ⟨hname, hhere, hback, Nat.not_lt.mp hlong⟩,
      Option.not_isSome_iff_eq_none.mp hentry⟩

theorem bind_eq_ok {α β : Type} {x : Except FileFault α} {f : α → Except FileFault β} {b : β}
    (h : (do f (← x)) = .ok b) : ∃ a, x = .ok a ∧ f a = .ok b := by
  cases x with
  | error fault => cases h
  | ok a => exact ⟨a, rfl, h⟩

theorem makeDirectory_eq_ok (h : d.makeDirectory p = .ok d') : ∃ before name spot es,
    Making d p before name spot es ∧ d' = d.withEmpty (spot ++ [name]) := by
  simp only [makeDirectory] at h
  split at h
  · split_ifs at h
  · rename_i name before hparts
    obtain ⟨hname, hparts⟩ := exists_parts hparts
    obtain ⟨spot, hlead, h⟩ := bind_eq_ok h
    obtain ⟨_, hmake, h⟩ := bind_eq_ok h
    obtain ⟨es, hspot, hlookedUp, hnew⟩ := canMake_eq_ok hmake hname
    cases h
    exact ⟨before.reverse, name, spot, es, ⟨hparts, hlead, hspot, hnew, hlookedUp⟩, rfl⟩

section Made

theorem walk_blanks (h : root.find? spot = some (.directory es)) (count : Nat) :
    walk root spot (List.replicate count "") = .ok spot := by
  induction count with
  | zero => rfl
  | succ count ih => exact walk_cons_eq_ok_iff.mpr ⟨es, spot, h, .stay (.inl rfl), ih⟩

variable (h : Making d p before name spot es)
include h

theorem Making.grows : d.root.Grows (d.withEmpty (spot ++ [name])).root :=
  FileTree.grows_put ((FileTree.find?_concat h.stands name).trans h.new) .empty

/-- The path leads to what was made for it. -/
theorem Making.resolve : (d.withEmpty (spot ++ [name])).resolve p = .ok (spot ++ [name]) := by
  have hmade := FileTree.find?_put d.root .empty (spot ++ [name])
  have hlead := walk_of_grows h.grows (walk_of_follow h.lead)
  have hlast (count : Nat) : walk (d.withEmpty (spot ++ [name])).root spot
      (name :: List.replicate count "") = .ok (spot ++ [name]) := by
    obtain ⟨es', hspot, -⟩ := h.grows spot es h.stands
    have hentry : (es'.lookup name).isSome := by
      rw [← FileTree.find?_concat hspot]
      exact Option.isSome_of_eq_some hmade
    exact walk_cons_eq_ok_iff.mpr
      ⟨es', _, hspot, .enter h.isLookedUp hentry, walk_blanks hmade count⟩
  obtain ⟨count, hparts⟩ := h.parts
  refine follow_of_walk h.lead rfl ?_
  rw [hparts, walk_append, hlead]
  exact hlast count

/-- A directory that was made is there, and empty. -/
theorem Making.find : (d.withEmpty (spot ++ [name])).find p = .ok .empty := by
  have hmade : (d.withEmpty (spot ++ [name])).root.find? (spot ++ [name]) = some .empty :=
    FileTree.find?_put ..
  simp only [Disk.find, h.resolve, hmade]

end Made

theorem isDirectory_of_makeDirectory (h : d.makeDirectory p = .ok d') : d'.isDirectory p := by
  obtain ⟨before, name, spot, es, hmaking, rfl⟩ := makeDirectory_eq_ok h
  rw [isDirectory, hmaking.find]
  rfl

/-- Where the first directory of a list was made, the path leads to a directory. -/
theorem isDirectory_of_makeFirst {ps : List Path} (h : d.makeFirst (p :: ps) = (d', .ok ())) :
    d'.isDirectory p := by
  have hsettle {disk : Disk} {fault : FileFault}
      (h : (disk, if disk.isDirectory p then Except.ok () else .error fault) = (d', .ok ())) :
      d'.isDirectory p := by
    obtain ⟨rfl, hok⟩ := Prod.mk.inj h
    by_contra hnone
    cases (if_neg hnone).symm.trans hok
  simp only [makeFirst] at h
  split at h
  · cases h
    exact isDirectory_of_makeDirectory ‹_›
  · split at h
    · cases h
    · split at h
      · cases h
        exact isDirectory_of_makeDirectory ‹_›
      · exact hsettle h
  · exact hsettle h

/-- A path leads to a directory with these entries; the empty path leads to the current one. -/
def Lists (d : Disk) (p : Path) (es : List (String × FileTree)) : Prop :=
  ∃ spot, d.spotOf p = .ok spot ∧ d.root.find? spot = some (.directory es)

/-- The entries of the directory that a path leads to, none if it leads to no directory. -/
def held (d : Disk) (p : Path) : List (String × FileTree) :=
  match d.spotOf p with
  | .error _ => []
  | .ok spot => d.root.held spot

theorem held_of_spotOf (h : d.spotOf p = .ok spot) : d.held p = d.root.held spot := by
  rw [held, h]

theorem held_of_not_lists (h : ∀ es, ¬ d.Lists p es) : d.held p = [] := by
  cases hspot : d.spotOf p with
  | error fault => rw [Disk.held, hspot]
  | ok spot =>
    rw [held_of_spotOf hspot]
    cases hfind : d.root.find? spot with
    | none => rw [FileTree.held, hfind]; rfl
    | some t =>
      cases t with
      | file content => exact FileTree.held_of_find? hfind
      | directory es => exact absurd ⟨spot, hspot, hfind⟩ (h es)

theorem spotOf_of_ne_nil (h : p.parts ≠ []) : d.spotOf p = d.resolve p := if_neg h

theorem isDirectory_iff (h : p.parts ≠ []) : d.isDirectory p ↔ ∃ es, d.Lists p es := by
  rw [isDirectory, find]
  constructor
  · intro hdirectory
    cases hspot : d.resolve p with
    | error fault => simp [hspot] at hdirectory
    | ok spot =>
      cases hfind : d.root.find? spot with
      | none => simp [hspot, hfind] at hdirectory
      | some t =>
        cases t with
        | file content => simp [hspot, hfind, FileTree.isDirectory] at hdirectory
        | directory es => exact ⟨es, spot, (spotOf_of_ne_nil h).trans hspot, hfind⟩
  · rintro ⟨es, spot, hspot, hfind⟩
    rw [(spotOf_of_ne_nil h).symm.trans hspot]
    simp [hfind, FileTree.isDirectory]

/-- Where a name leads on, no entry can be made under it. -/
theorem canMake_of_passes {next : List String} (hspot : d.root.find? spot = some (.directory es))
    (hpass : Passes es spot name next) (hname : name ≠ "") :
    d.canMake spot name = .error .present := by
  rw [canMake, hspot]
  cases hpass with
  | stay hstay => exact if_pos (.inl (hstay.resolve_left hname))
  | back => exact if_pos (.inr rfl)
  | enter hlookedUp hentry =>
    simp [hlookedUp.ne_here, hlookedUp.ne_back, Nat.not_lt.mpr hlookedUp.short, hentry]

theorem Path.ancestors_eq (p : Path) : p.ancestors =
    ((p.parts.zipIdx.filter fun e => p.isComponent e.2 e.1).map (·.2 + 1)).dropLast.reverse.map
      fun n => { p with parts := p.parts.take n } := rfl

theorem Path.ancestors_of_blank (h : ∀ part ∈ p.parts, part = "") : p.ancestors = [] := by
  have hends : p.parts.zipIdx.filter (fun e => p.isComponent e.2 e.1) = [] := by
    refine List.filter_eq_nil_iff.mpr fun e he => ?_
    simp [isComponent, h e.1 (List.fst_mem_of_mem_zipIdx he)]
  rw [ancestors_eq, hends]
  rfl

/-- A directory that is there stands in the way of making it. Something is missing only if the path
has no name at all. -/
theorem makeDirectory_of_lists (h : d.Lists p es) (hparts : p.parts ≠ []) :
    d.makeDirectory p = .error .present ∨
      d.makeDirectory p = .error .missing ∧ p.ancestors = [] := by
  obtain ⟨last, hlast, -⟩ := h
  rw [spotOf_of_ne_nil hparts] at hlast
  simp only [makeDirectory]
  split
  · rename_i hblank
    by_cases habsolute : p.absolute
    · exact .inl (if_pos habsolute)
    · have hnames : ∀ part ∈ p.parts, part = "" := by simpa using hblank
      exact .inr ⟨if_neg habsolute, Path.ancestors_of_blank hnames⟩
  · rename_i name before hname
    left
    obtain ⟨hne, count, hparts⟩ := exists_parts hname
    have hwalk := walk_of_follow hlast
    rw [hparts, walk_append] at hwalk
    obtain ⟨spot, hlead, hrest⟩ := bind_eq_ok hwalk
    obtain ⟨es, next, hspot, hpass, -⟩ := walk_cons_eq_ok_iff.mp hrest
    have hfollow : d.follow p before.reverse = .ok spot := follow_of_walk hlast rfl hlead
    simp only [hfollow, canMake_of_passes hspot hpass hne, bind, Except.bind]

/-- A directory that is there is not made again, and nothing else is. -/
theorem makeDirectories_of_lists (h : d.Lists p es) : d.makeDirectories p = (d, .ok ()) := by
  by_cases hparts : p.parts = []
  · exact if_pos hparts
  · have hdirectory : d.isDirectory p := (isDirectory_iff hparts).mpr ⟨es, h⟩
    rw [makeDirectories, if_neg hparts, makeFirst]
    rcases makeDirectory_of_lists h hparts with hmake | ⟨hmake, hancestors⟩
    · simp only [hmake, if_pos hdirectory]
    · simp only [hmake, hancestors, makeFirst, if_pos hdirectory]

/-- Directories that could be made are there. -/
theorem lists_of_makeDirectories (h : d.makeDirectories p = (d', .ok ())) (hparts : p.parts ≠ []) :
    ∃ es, d'.Lists p es := by
  rw [makeDirectories, if_neg hparts] at h
  exact (isDirectory_iff hparts).mp (isDirectory_of_makeFirst h)

section Forth

/-- A path on the way to another, whose names start with its names. -/
structure IsStart (q p : Path) : Prop where
  absolute : q.absolute = p.absolute
  parts : q.parts <+: p.parts

variable (hforth : ".." ∉ p.parts)
include hforth

/-- Without going back, nothing is below the directory that was made last. -/
theorem held_of_makeDirectory (hq : IsStart q p) (h : d.makeDirectory q = .ok d') :
    d'.held p = [] := by
  obtain ⟨before, name, spot, es, hmaking, rfl⟩ := makeDirectory_eq_ok h
  obtain ⟨count, hparts⟩ := hmaking.parts
  have hprefix : before ++ [name] <+: p.parts := by
    refine List.IsPrefix.trans ?_ hq.parts
    rw [hparts]
    exact ⟨List.replicate count "", by simp⟩
  obtain ⟨rest, hrest⟩ := hprefix
  have hstart : d.start q = d.start p := by rw [start, start, hq.absolute]
  have hspot : spot = d.start p ++ lookedUp before := by
    refine eq_of_walk (fun hback => hforth ?_) (hstart ▸ walk_of_follow hmaking.lead)
    rw [← hrest]
    simp [hback]
  cases hlast : (d.withEmpty (spot ++ [name])).spotOf p with
  | error fault => rw [held, hlast]
  | ok last =>
    have hfollow : (d.withEmpty (spot ++ [name])).follow p p.parts = .ok last :=
      (spotOf_of_ne_nil (by simp [← hrest])).symm.trans hlast
    have hwalk := walk_of_follow hfollow
    have hdown : last = d.start p ++ lookedUp p.parts := eq_of_walk hforth hwalk
    rw [held_of_spotOf hlast]
    refine FileTree.held_put_empty d.root ⟨lookedUp rest, ?_⟩
    rw [hdown, hspot, ← hrest]
    simp [lookedUp, hmaking.isLookedUp.ne_empty, hmaking.isLookedUp.ne_here]

/-- Making directories one after the other adds no entry where there was none. -/
theorem held_of_makeFirst {ps : List Path} (hps : ∀ q ∈ ps, IsStart q p) (hnone : d.held p = []) :
    (d.makeFirst ps).1.held p = [] := by
  induction ps with
  | nil => exact hnone
  | cons q ps ih =>
    obtain ⟨hq, hps⟩ := List.forall_mem_cons.mp hps
    have hrest := ih hps
    simp only [makeFirst]
    split
    · exact held_of_makeDirectory hforth hq ‹_›
    · split
      · rename_i hmake
        rwa [hmake] at hrest
      · rename_i hmake
        rw [hmake] at hrest
        split
        · exact held_of_makeDirectory hforth hq ‹_›
        · exact hrest
    · exact hnone

theorem held_makeDirectories (d : Disk) : (d.makeDirectories p).1.held p = d.held p := by
  by_cases hlists : ∃ es, d.Lists p es
  · obtain ⟨es, hlists⟩ := hlists
    rw [makeDirectories_of_lists hlists]
  · have hnone : d.held p = [] := held_of_not_lists fun es h => hlists ⟨es, h⟩
    rw [makeDirectories]
    split
    · rfl
    · rw [hnone]
      refine held_of_makeFirst hforth (fun q hq => ?_) hnone
      rcases List.mem_cons.mp hq with rfl | hq
      · exact ⟨rfl, List.prefix_refl q.parts⟩
      · obtain ⟨n, -, rfl⟩ := List.mem_map.mp hq
        exact ⟨rfl, List.take_prefix n p.parts⟩

end Forth

end ModuleClosure.Disk
