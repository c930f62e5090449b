import ModuleClosure.Proofs.Parameters.BasePath

/-!
# Canonical keys

Whatever a parameter file is like and whatever it is read under, its keys are joined from segments
that are not empty and have neither dots nor blanks around them. Such a key comes from one path
only: assignments do not meet in a key unless they have the same base, open sections and own path,
and the value of a key is also found by going down segment by segment.
-/
namespace ModuleClosure.Parameters
open Text

/-- A part of a key. -/
structure IsSegment (s : String) : Prop where
  ne_empty : s ≠ ""
  no_dot : '.' ∉ s.toList
  trimmed : trim s.toList = s.toList

instance (s : String) : Decidable (IsSegment s) :=
  decidable_of_iff (s ≠ "" ∧ '.' ∉ s.toList ∧ trim s.toList = s.toList)
    ⟨fun h => ⟨h.1, h.2.1, h.2.2⟩, fun h => ⟨h.ne_empty, h.no_dot, h.trimmed⟩⟩

/-- A path that has a key. -/
structure IsCanonical (path : Path) : Prop where
  ne_nil : path ≠ []
  segments : ∀ s ∈ path, IsSegment s

instance (path : Path) : Decidable (IsCanonical path) :=
  decidable_of_iff (path ≠ [] ∧ ∀ s ∈ path, IsSegment s)
    ⟨fun h => ⟨h.1, h.2⟩, fun h => ⟨h.ne_nil, h.segments⟩⟩

/-- The value that is found by going down into the subtree of each segment but the last. -/
def descend (p : Parameters) : Path → Option String
  | [] => none
  | [s] => p.get? s
  | s :: path => (p.sub s).descend path

/-- The full path and the value of an assignment below a path. -/
def Line.placed? (front : Path) : Line → Option (Path × String)
  | assign path value => some (front ++ path, value)
  | _ => none

/-- The assignments of lines in order, each with its full path: the base, the open sections and its
own path. -/
def placements (base : Path) (said : List Line) : List (Path × String) :=
  (withEarlier [] said).filterMap fun (earlier, line) => line.placed? (base ++ openAfter earlier)

variable {p : Parameters} {base path other : Path} {said : List Line} {line : Line}
  {text : List Char}

theorem placements_concat : placements base (said ++ [line]) =
    placements base said ++ (line.placed? (base ++ openAfter said)).toList := by
  rw [placements, withEarlier_concat, List.filterMap_append]
  cases h : line.placed? (base ++ openAfter said) <;> simp [h, placements]

theorem entry?_eq_map_placed? (front : Path) (line : Line) :
    line.entry? front = (line.placed? front).map fun e => (e.1.key, e.2) := by
  cases line <;> rfl

/-- An assignment is made under the key of its full path. -/
theorem assignments_eq_map_placements (base : Path) (said : List Line) :
    assignments base said = (placements base said).map fun e => (e.1.key, e.2) := by
  rw [assignments, placements, List.map_filterMap]
  exact congrArg (List.filterMap · _) (funext fun e => entry?_eq_map_placed? _ e.2)

/-- Segments have no dots, so the dots of a key are between them. -/
theorem fields_key (h : IsCanonical path) :
    fields '.' path.key.toList = path.map String.toList := by
  refine fields_eq_iff.mpr ⟨by simpa using h.ne_nil, ?_, ?_⟩
  · rw [Path.key, String.toList_intercalate]
    rfl
  · intro x hx
    obtain ⟨s, hs, rfl⟩ := List.mem_map.mp hx
    exact (h.segments s hs).no_dot

theorem IsCanonical.eq_of_key_eq (h : IsCanonical path) (h' : IsCanonical other)
    (hkey : path.key = other.key) : path = other := by
  have hfields : path.map String.toList = other.map String.toList := by
    rw [← fields_key h, ← fields_key h', hkey]
  exact List.map_injective_iff.mpr (fun _ _ => String.toList_inj.mp) hfields

theorem IsCanonical.key_ne_empty (h : IsCanonical path) : path.key ≠ "" := by
  intro hempty
  have hfields := fields_key h
  rw [hempty] at hfields
  -- The one field of the empty text is empty, and no segment is.
  obtain ⟨s, hpath, hs⟩ := List.map_eq_singleton_iff.mp hfields.symm
  exact (h.segments s (by simp [hpath])).ne_empty (String.toList_eq_nil_iff.mp hs)

theorem IsSegment.getLast?_ne_dot {s : String} (h : IsSegment s) : s.toList.getLast? ≠ some '.' :=
  fun hlast => h.no_dot (List.mem_of_getLast? hlast)

theorem key_cons (s : String) (hpath : path ≠ []) : Path.key (s :: path) = s ++ "." ++ path.key :=
  Path.key_append (List.cons_ne_nil s []) hpath

/-- Going down segment by segment leads to the value of the whole key. -/
theorem descend_eq_get? (h : IsCanonical path) : p.descend path = p.get? path.key := by
  induction path generalizing p with
  | nil => exact absurd rfl h.ne_nil
  | cons s path ih =>
    cases path with
    | nil => simp [descend, Path.key]
    | cons next path =>
      have hrest : IsCanonical (next :: path) :=
        ⟨List.cons_ne_nil next path, fun x hx => h.segments x (List.mem_cons_of_mem s hx)⟩
      have hs : s.toList.getLast? ≠ some '.' :=
        (h.segments s List.mem_cons_self).getLast?_ne_dot
      calc p.descend (s :: next :: path)
        _ = (p.sub s).descend (next :: path) := rfl
        _ = (p.sub s).get? (Path.key (next :: path)) := ih hrest
        _ = p.get? (s ++ "." ++ Path.key (next :: path)) := by rw [get?_sub, ofList_underPath hs]
        _ = p.get? (Path.key (s :: next :: path)) := by rw [key_cons s hrest.ne_nil]

section Spelled

theorem trim_trim (s : List Char) : trim (trim s) = trim s := by
  rw [trim_of_suffix List.suffix_rfl, (stops_trim s).trimStart_eq]

/-- A path is spelled with segments only, whatever stands around them. -/
theorem Spells.isCanonical (h : Spells text path) : IsCanonical path := by
  refine ⟨h.ne_nil, fun s hs => ?_⟩
  obtain ⟨hne, hdot⟩ := h.segments s hs
  refine ⟨fun hempty => hne (String.toList_eq_nil_iff.mpr hempty), hdot, ?_⟩
  obtain ⟨parts, -, -, -, rfl⟩ := h
  obtain ⟨x, -, rfl⟩ := List.mem_map.mp hs
  rw [String.toList_ofList, trim_trim]

theorem SpellsBase.segments (h : SpellsBase text base) : ∀ s ∈ base, IsSegment s := by
  obtain ⟨-, rfl⟩ | h := h
  · exact nofun
  · exact h.isCanonical.segments

theorem Says.segments_opened (h : Says text line) : ∀ s ∈ line.opened, IsSegment s := by
  cases h with
  | skipped => exact nofun
  | leave => exact nofun
  | enter _ hp => exact hp.isCanonical.segments
  | assign => exact nofun

end Spelled

variable {file : List (List Char)}

theorem SaysAll.exists_says (h : SaysAll file said) : ∀ l ∈ said, ∃ text, Says text l := by
  induction h with
  | nil => exact nofun
  | cons hl _ ih => exact List.forall_mem_cons.mpr ⟨⟨_, hl⟩, ih⟩

/-- Open sections are paths of headers. -/
theorem segments_openAfter (h : ∀ l ∈ said, ∃ text, Says text l) :
    ∀ s ∈ openAfter said, IsSegment s := by
  intro s hs
  obtain ⟨l, hl, hs⟩ := List.mem_flatMap.mp hs
  obtain ⟨text, hsays⟩ := h l ((List.rtakeWhile_suffix _ _).subset hl)
  exact hsays.segments_opened s hs

theorem isCanonical_of_placed? {e : Path × String} (hbase : ∀ s ∈ base, IsSegment s)
    (hopen : ∀ s ∈ other, IsSegment s) (hline : Says text line)
    (he : line.placed? (base ++ other) = some e) : IsCanonical e.1 := by
  cases hline with
  | skipped => cases he
  | leave => cases he
  | enter => cases he
  | assign _ _ _ hp =>
    obtain rfl := Option.some.inj he
    have hown := hp.isCanonical
    refine ⟨List.append_ne_nil_of_right_ne_nil _ hown.ne_nil, fun s hs => ?_⟩
    rcases List.mem_append.mp hs with hs | hs
    · exact (List.mem_append.mp hs).elim (hbase s) (hopen s)
    · exact hown.segments s hs

/-- The full path of each assignment is one that has a key. -/
theorem isCanonical_of_mem_placements (hbase : ∀ s ∈ base, IsSegment s)
    (hsaid : ∀ l ∈ said, ∃ text, Says text l) : ∀ e ∈ placements base said, IsCanonical e.1 := by
  induction said using List.reverseRec with
  | nil => exact nofun
  | append_singleton said l ih =>
    obtain ⟨hsaid, hl⟩ := List.forall_mem_append.mp hsaid
    obtain ⟨text, hsays⟩ := hl l List.mem_cons_self
    rw [placements_concat, List.forall_mem_append]
    refine ⟨ih hsaid, fun e he => ?_⟩
    exact isCanonical_of_placed? hbase (segments_openAfter hsaid) hsays (by simpa using he)

/-- A file that is read says what each line assigns, and its parameters are these assignments. Each
full path of an assignment can be had back from its key, so different paths have different keys.
Each key of the parameters is the key of exactly one canonical path, and going down along it leads
to the value of the key. -/
theorem readUnder_canonical {baseText text : String} {p : Parameters}
    (h : (readUnder baseText text).1 = .ok p) :
    ∃ base said, SpellsBase baseText.toList base ∧ SaysAll (lines text.toList) said ∧
      p = ofList ((placements base said).map fun e => (e.1.key, e.2)) ∧
      (∀ e ∈ placements base said, ∀ e' ∈ placements base said,
        e.1.key = e'.1.key → e.1 = e'.1) ∧
      ∀ key value, p.get? key = some value →
        key ≠ "" ∧ (∃! path : Path, IsCanonical path ∧ path.key = key) ∧
        ∀ path : Path, IsCanonical path → path.key = key → p.descend path = some value := by
  obtain ⟨base, hbase⟩ | ⟨fault, hrefused⟩ := spellsBase_or_refused baseText
  swap
  · rw [hrefused] at h
    cases h
  rcases saysAll_or_refuses (lines text.toList) with
    ⟨said, hsaid⟩ | ⟨before, line, after, said, fault, hfile, hbefore, hr⟩
  swap
  · rw [readUnder_of_refuses hbase hfile hbefore hr] at h
    cases h
  have hcanonical := isCanonical_of_mem_placements hbase.segments hsaid.exists_says
  rw [readUnder_of_saysAll hbase hsaid, assignments_eq_map_placements] at h
  obtain rfl := Except.ok.inj h
  refine ⟨base, said, hbase, hsaid, rfl, fun e he e' he' hkey => ?_, fun key value hget => ?_⟩
  · exact (hcanonical e he).eq_of_key_eq (hcanonical e' he') hkey
  · -- What was assigned last to the key was assigned under a full path.
    obtain ⟨before, after, hentries, -⟩ := lastValue_eq_some_iff.mp (get?_ofList ▸ hget)
    have hmem : (key, value) ∈ (placements base said).map fun e => (e.1.key, e.2) := by
      simp [hentries]
    obtain ⟨e, he, heq⟩ := List.mem_map.mp hmem
    obtain ⟨rfl, rfl⟩ := Prod.mk.inj heq
    refine ⟨(hcanonical e he).key_ne_empty, ⟨e.1, ⟨hcanonical e he, rfl⟩, ?_⟩, ?_⟩
    · rintro path ⟨hpath, hkey⟩
      exact hpath.eq_of_key_eq (hcanonical e he) hkey
    · intro path hpath hkey
      rw [descend_eq_get? hpath, hkey, hget]

/-- The same path put together from a base, sections and own paths in several ways. -/
def assembled : String := "[ a ]\nb . c = 1\n[]\na.b.c = 2\n[a.b]\nd = 3\n[ c.d ]\ne = 4\n"

theorem readUnder_canonical_assembled :
    ∃ p, (readUnder " p.q " assembled).1 = .ok p ∧ p.get? "p.q.a.b.c" = some "2" ∧
      p.descend ["p", "q", "a", "b", "c"] = some "2" ∧
      (∃! path : Path, IsCanonical path ∧ path.key = "p.q.a.b.c") := by
  have hread : (readUnder " p.q " assembled).1 = .ok (ofList [("p.q.a.b.c", "2"),
      ("p.q.a.b.d", "3"), ("p.q.a.b.c.d.e", "4")]) := by decide +kernel
  have hget : (ofList [("p.q.a.b.c", "2"), ("p.q.a.b.d", "3"),
      ("p.q.a.b.c.d.e", "4")]).get? "p.q.a.b.c" = some "2" := by decide +kernel
  obtain ⟨base, said, -, -, -, -, hkeys⟩ := readUnder_canonical hread
  obtain ⟨-, hunique, hdescend⟩ := hkeys _ _ hget
  exact ⟨_, hread, hget, hdescend _ (by decide) (by decide), hunique⟩

end ModuleClosure.Parameters
