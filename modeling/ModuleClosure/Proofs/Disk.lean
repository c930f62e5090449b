import ModuleClosure.Disk
import ModuleClosure.Proofs.FileTree
import ModuleClosure.Proofs.Text.Blank

/-!
# Paths of a disk

A name that is one ordinary component adds exactly itself to a path, whether it is put there as a
part or as text. Below a directory, ordinary names are followed entry by entry.
-/
namespace ModuleClosure.Disk
open Text

/-- A name that stands for one entry of a directory: neither empty, nor one of the two names that
stand for directories on the way, nor more than one name. -/
structure IsOrdinary (name : String) : Prop where
  ne_empty : name ≠ ""
  ne_here : name ≠ "."
  ne_back : name ≠ ".."
  no_slash : '/' ∉ name.toList

variable {name text : String} {names : List String} {p : Path}

namespace Path

/-- To join names is to append them to the parts, but for an empty name at the end that gives way
and one at the start of an absolute path. -/
theorem exists_join (p : Path) : ∃ before,
    (∀ names, p.join names = ⟨p.absolute, before ++ names⟩) ∧
      (before = p.parts ∨ before ++ [""] = p.parts ∨ before = p.parts ++ [""]) := by
  by_cases hlast : p.parts.getLast? = some ""
  · obtain ⟨before, hparts⟩ := List.getLast?_eq_some_iff.mp hlast
    by_cases hroot : p.absolute ∧ before = []
    · refine ⟨[""], fun names => ?_, .inl ?_⟩
      · simp [join, hparts, hroot.1, hroot.2]
      · simp [hparts, hroot.2]
    · refine ⟨before, fun names => ?_, .inr (.inl hparts.symm)⟩
      simp [join, hparts, hroot]
  · by_cases hroot : p.absolute ∧ p.parts = []
    · refine ⟨[""], fun names => ?_, .inr (.inr ?_)⟩
      · simp [join, hroot.1, hroot.2]
      · simp [hroot.2]
    · refine ⟨p.parts, fun names => ?_, .inl rfl⟩
      simp [join, hlast, hroot]

theorem join_join (h : name ≠ "") (p : Path) (names : List String) :
    (p.join [name]).join names = p.join (name :: names) := by
  obtain ⟨before, hjoin, -⟩ := p.exists_join
  rw [hjoin, hjoin]
  simp [join, h]

theorem text_join_ne_empty (h : name ≠ "") (p : Path) : (p.join [name]).text ≠ "" := by
  obtain ⟨before, hjoin, -⟩ := p.exists_join
  rw [hjoin, text]
  by_cases hbefore : before = []
  · simpa [hbefore] using h
  · rw [String.intercalate_append_of_ne_nil hbefore (by simp)]
    intro hempty
    simpa using congrArg String.toList hempty

theorem text_join_join (h : name ≠ "") (p : Path) (next : String) :
    ((p.join [name]).join [next]).text = (p.join [name]).text ++ "/" ++ next := by
  obtain ⟨before, hjoin, -⟩ := p.exists_join
  have happend : before ++ [name, next] = (before ++ [name]) ++ [next] := by simp
  rw [join_join h, hjoin, hjoin, text, text, happend,
    String.intercalate_append_of_ne_nil (by simp) (by simp), String.intercalate_singleton]

theorem components_eq (p : Path) : p.components = (if p.absolute then ["/"] else []) ++
    (p.parts.zipIdx.filter fun e => p.isComponent e.2 e.1).map (·.1) := rfl

/-- Ordinary names are components wherever they stand, and empty ones are none. -/
theorem components_append (absolute : Bool) (before : List String)
    (h : ∀ part ∈ names, part = "" ∨ IsOrdinary part) :
    components ⟨absolute, before ++ names⟩ =
      components ⟨absolute, before⟩ ++ names.filter (· ≠ "") := by
  have hnames (k : Nat) : ((names.zipIdx k).filter fun e =>
      isComponent ⟨absolute, before ++ names⟩ e.2 e.1).map (·.1) = names.filter (· ≠ "") := by
    -- Only the index of a part matters, so the whole list stays fixed in the induction.
    generalize before ++ names = parts
    induction names generalizing k with
    | nil => rfl
    | cons part names ih =>
      obtain ⟨hpart, hnames⟩ := List.forall_mem_cons.mp h
      have hcomponent : isComponent ⟨absolute, parts⟩ k part = decide (part ≠ "") := by
        obtain rfl | hpart := hpart
        · rfl
        · simp [isComponent, hpart.ne_empty, hpart.ne_here]
      rw [List.zipIdx_cons, List.filter_cons, List.filter_cons, hcomponent]
      by_cases hempty : part = "" <;> simp [hempty, ih hnames]
  rw [components_eq, components_eq, List.zipIdx_append, List.filter_append, List.map_append,
    hnames, List.append_assoc]
  rfl

theorem components_append_ordinary (absolute : Bool) (before : List String)
    (h : ∀ part ∈ names, IsOrdinary part) :
    components ⟨absolute, before ++ names⟩ = components ⟨absolute, before⟩ ++ names := by
  have hnames : names.filter (· ≠ "") = names :=
    List.filter_eq_self.mpr fun part hpart => by simpa using (h part hpart).ne_empty
  rw [components_append absolute before fun part hpart => .inr (h part hpart), hnames]

theorem components_join (h : ∀ part ∈ names, IsOrdinary part) :
    (p.join names).components = p.components ++ names := by
  have hblank (before : List String) :
      components ⟨p.absolute, before ++ [""]⟩ = components ⟨p.absolute, before⟩ := by
    rw [components_append p.absolute before (by simp)]
    simp
  obtain ⟨before, hjoin, hbefore⟩ := p.exists_join
  rw [hjoin, components_append_ordinary p.absolute before h]
  congr 1
  rcases hbefore with rfl | hparts | rfl
  · rfl
  · rw [← hblank before, hparts]
  · exact hblank p.parts

theorem ofText_of_ne_empty (h : text ≠ "") : ofText text =
    ⟨text.toList.head? = some '/', (fields '/' text.toList).map String.ofList⟩ := by
  rw [ofText]
  cases hs : text.toList with
  | nil => exact absurd (String.toList_eq_nil_iff.mp hs) h
  | cons c s => rfl

theorem fields_of_isOrdinary (h : IsOrdinary name) : fields '/' name.toList = [name.toList] := by
  rw [fields_eq_splitOn, List.splitOn_eq_singleton h.no_slash]

theorem ofText_of_isOrdinary (h : IsOrdinary name) : ofText name = ⟨false, [name]⟩ := by
  have hhead : name.toList.head? ≠ some '/' := fun hc => h.no_slash (List.mem_of_head? hc)
  rw [ofText_of_ne_empty h.ne_empty, fields_of_isOrdinary h]
  simp [hhead]

/-- A name that is one ordinary component is joined as one part and never starts anew. -/
theorem joinText_of_isOrdinary (h : IsOrdinary name) (p : Path) :
    p.joinText name = p.join [name] := by
  rw [joinText, ofText_of_isOrdinary h]
  rfl

theorem components_ofText_append (htext : text ≠ "") (h : IsOrdinary name) :
    (ofText (text ++ "/" ++ name)).components = (ofText text).components ++ [name] := by
  have hlist : (text ++ "/" ++ name).toList = text.toList ++ '/' :: name.toList := by simp
  have hfull : text ++ "/" ++ name ≠ "" := by
    intro hempty
    simp [hempty] at hlist
  have hhead : (text.toList ++ '/' :: name.toList).head? = text.toList.head? :=
    List.head?_append_of_ne_nil _ fun hnil => htext (String.toList_eq_nil_iff.mp hnil)
  have hparts : ofText (text ++ "/" ++ name) =
      ⟨(ofText text).absolute, (ofText text).parts ++ [name]⟩ := by
    rw [ofText_of_ne_empty hfull, ofText_of_ne_empty htext, hlist, hhead, fields_append_cons,
      fields_of_isOrdinary h]
    simp
  rw [hparts, components_append_ordinary _ _ (by simpa using h)]

end Path

/-- A path that the system takes: without NUL, and neither its text nor a name in it too long. -/
structure IsTaken (p : Path) : Prop where
  no_nul : holdsNul p = false
  text_short : p.text.utf8ByteSize ≤ pathLimit
  names_short : ∀ part ∈ p.parts, part.utf8ByteSize ≤ nameLimit

instance (p : Path) : Decidable (IsTaken p) :=
  decidable_of_iff (holdsNul p = false ∧ p.text.utf8ByteSize ≤ pathLimit ∧
      ∀ part ∈ p.parts, part.utf8ByteSize ≤ nameLimit)
    ⟨fun h => ⟨h.1, h.2.1, h.2.2⟩, fun h => ⟨h.no_nul, h.text_short, h.names_short⟩⟩

variable {d : Disk} {root t : FileTree} {spot : List String} {es : List (String × FileTree)}

theorem walk_append (root : FileTree) (spot before names : List String) :
    walk root spot (before ++ names) = (walk root spot before).bind (walk root · names) := by
  induction before generalizing spot with
  | nil => rfl
  | cons name before ih =>
    rw [List.cons_append, walk, walk]
    cases root.find? spot with
    | none => rfl
    | some t =>
      cases t with
      | file content => rfl
      | directory es =>
        dsimp only
        split_ifs
        · exact ih spot
        · exact ih spot.dropLast
        · rfl
        · rfl
        · exact ih (spot ++ [name])

/-- A directory with these entries stands where a path leads; the empty path leads to the current
one. -/
def HoldsDirectory (d : Disk) (p : Path) (es : List (String × FileTree)) : Prop :=
  ∃ spot, walk d.root (d.start p) p.parts = .ok spot ∧ d.root.find? spot = some (.directory es)

/-- An empty name asks for a directory and stays there. -/
theorem walk_blank_eq_ok_iff {last : List String} : walk root spot [""] = .ok last ↔
    last = spot ∧ ∃ es, root.find? spot = some (.directory es) := by
  rw [walk]
  cases root.find? spot with
  | none => simp
  | some t =>
    cases t with
    | file content => simp
    | directory es => simpa [walk] using eq_comm

/-- The parts of a path that is joined to names lead where the path leads. -/
theorem walk_join (h : walk d.root (d.start p) p.parts = .ok spot)
    (hdirectory : d.root.find? spot = some (.directory es)) (names : List String) :
    walk d.root (d.start (p.join names)) (p.join names).parts = walk d.root spot names := by
  obtain ⟨before, hjoin, hbefore⟩ := p.exists_join
  have hlead : walk d.root (d.start p) before = .ok spot := by
    -- The parts that are gone or new are empty names, which need a directory and stay in it.
    rcases hbefore with rfl | hparts | rfl
    · exact h
    · rw [← hparts, walk_append] at h
      cases hlead : walk d.root (d.start p) before with
      | error fault => simp [hlead, Except.bind] at h
      | ok spot' =>
        rw [hlead] at h
        rw [(walk_blank_eq_ok_iff.mp h).1]
    · rw [walk_append, h]
      exact walk_blank_eq_ok_iff.mpr ⟨rfl, es, hdirectory⟩
  rw [hjoin, walk_append]
  change (walk d.root (d.start p) before).bind (walk d.root · names) = _
  rw [hlead]
  rfl

/-- Ordinary names are followed entry by entry. -/
theorem walk_reach (hnames : ∀ name ∈ names, IsOrdinary name ∧ name.utf8ByteSize ≤ nameLimit)
    (ht : root.find? spot = some t) :
    ((walk root spot names).bind fun spot => (root.find? spot).elim (.error .missing) .ok) =
      t.reach names := by
  induction names generalizing spot t with
  | nil => simp [walk, Except.bind, ht, FileTree.reach]
  | cons name names ih =>
    obtain ⟨⟨hname, hshort⟩, hrest⟩ := List.forall_mem_cons.mp hnames
    rw [walk, ht]
    cases t with
    | file content => rfl
    | directory es =>
      have hstays : ¬ (name = "" ∨ name = ".") := by simp [hname.ne_empty, hname.ne_here]
      dsimp only
      rw [if_neg hstays, if_neg hname.ne_back, if_neg (Nat.not_lt.mpr hshort), FileTree.reach]
      cases hsub : es.lookup name with
      | none => rfl
      | some sub =>
        exact ih hrest ((FileTree.find?_concat ht name).trans hsub)

/-- What stands below a directory under ordinary names, or why nothing does. -/
theorem find_join (hroot : d.HoldsDirectory p es) (hne : names ≠ [])
    (hnames : ∀ name ∈ names, IsOrdinary name) (htaken : IsTaken (p.join names)) :
    d.find (p.join names) = (FileTree.directory es).reach names := by
  obtain ⟨spot, hwalk, hdirectory⟩ := hroot
  obtain ⟨before, hjoin, -⟩ := p.exists_join
  have hparts : (p.join names).parts ≠ [] := by
    rw [hjoin]
    exact List.append_ne_nil_of_right_ne_nil before hne
  have hresolve : d.resolve (p.join names) = walk d.root spot names := by
    rw [resolve, follow, htaken.no_nul, if_neg Bool.false_ne_true, if_neg hparts,
      if_neg (Nat.not_lt.mpr htaken.text_short), walk_join hwalk hdirectory]
  have hshort (name : String) (hname : name ∈ names) : name.utf8ByteSize ≤ nameLimit := by
    refine htaken.names_short name ?_
    rw [hjoin]
    exact List.mem_append_right before hname
  rw [find, hresolve, ← walk_reach (fun name hname => ⟨hnames name hname, hshort name hname⟩)
    hdirectory]
  cases walk d.root spot names with
  | error fault => rfl
  | ok spot => cases hfind : d.root.find? spot <;> simp [Except.bind, hfind]

end ModuleClosure.Disk
