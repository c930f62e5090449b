import ModuleClosure.Proofs.Parameters.File
import ModuleClosure.Proofs.Parameters.Subtree
import ModuleClosure.Proofs.Text.Run

/-!
# Reading under a base path

A file that is read under a base path says the same as the file alone, only below the path: its
parameters are the subtree there, and there are no others. An empty header leads back to the base
path, so each assignment has the path in front of its own key.
-/
namespace ModuleClosure.Parameters
open Text

variable {path rest : Path} {said : List Line} {line text : List Char} {value : String}

theorem Path.key_append (hpath : path ≠ []) (hrest : rest ≠ []) :
    Path.key (path ++ rest) = Path.key path ++ "." ++ Path.key rest :=
  String.intercalate_append_of_ne_nil hpath hrest

/-- The segments of a path are neither empty nor do they have dots. -/
theorem Spells.segments (h : Spells text path) : ∀ s ∈ path, s.toList ≠ [] ∧ '.' ∉ s.toList := by
  obtain ⟨parts, -, -, hparts, rfl⟩ := h
  intro s hs
  obtain ⟨x, hx, rfl⟩ := List.mem_map.mp hs
  rw [String.toList_ofList]
  exact ⟨(hparts x hx).2, fun hdot => (hparts x hx).1 (mem_of_mem_trim hdot)⟩

theorem Spells.ne_nil (h : Spells text path) : path ≠ [] := by
  obtain ⟨parts, hne, -, -, rfl⟩ := h
  exact mt List.map_eq_nil_iff.mp hne

/-- The key of a path ends in its last segment, which has no dot. -/
theorem Spells.getLast?_key (h : Spells text path) :
    (Path.key path).toList.getLast? ≠ some '.' := by
  obtain ⟨front, s, rfl⟩ := (List.eq_nil_or_concat' path).resolve_left h.ne_nil
  have hkey : ∃ before, Path.key (front ++ [s]) = before ++ s := by
    by_cases hfront : front = []
    · exact ⟨"", by simp [hfront, Path.key]⟩
    · exact ⟨_, Path.key_append hfront (List.cons_ne_nil s [])⟩
  obtain ⟨before, hkey⟩ := hkey
  obtain ⟨hne, hdot⟩ := h.segments s (by simp)
  rw [hkey, String.toList_append, List.getLast?_append_of_ne_nil _ hne]
  exact fun hlast => hdot (List.mem_of_getLast? hlast)

/-- A line does not assign to the empty path. -/
def Line.Keyed : Line → Prop
  | assign path _ => path ≠ []
  | _ => True

theorem Says.keyed {l : Line} (h : Says line l) : l.Keyed := by
  cases h with
  | skipped => trivial
  | leave => trivial
  | enter => trivial
  | assign _ _ _ hp => exact hp.ne_nil

/-- An entry with a path in front of its key. -/
def below (path : Path) (entry : String × String) : String × String :=
  (Path.key path ++ "." ++ entry.1, entry.2)

theorem entry?_append {l : Line} (hpath : path ≠ []) (hl : l.Keyed) :
    l.entry? (path ++ rest) = (l.entry? rest).map (below path) := by
  cases l with
  | skipped => rfl
  | leave => rfl
  | enter => rfl
  | assign own value =>
    have hne : rest ++ own ≠ [] := List.append_ne_nil_of_right_ne_nil rest hl
    rw [Line.entry?, List.append_assoc, Path.key_append hpath hne]
    rfl

/-- The assignments under a base path are those without it, below the path. -/
theorem assignments_eq_map_below (hpath : path ≠ []) (h : ∀ l ∈ said, l.Keyed) :
    assignments path said = (assignments [] said).map (below path) := by
  induction said using List.reverseRec with
  | nil => rfl
  | append_singleton said l ih =>
    obtain ⟨hsaid, hl⟩ := List.forall_mem_append.mp h
    rw [assignments_concat, assignments_concat, List.map_append, ih hsaid, List.nil_append,
      entry?_append hpath (hl l List.mem_cons_self)]
    cases l.entry? (openAfter said) <;> rfl

theorem SaysAll.keyed {file : List (List Char)} (h : SaysAll file said) :
    ∀ l ∈ said, l.Keyed := by
  induction h with
  | nil => exact nofun
  | cons hl _ ih => exact List.forall_mem_cons.mpr ⟨hl.keyed, ih⟩

theorem below_injective (path : Path) :
    Function.Injective fun key => Path.key path ++ "." ++ key := by
  intro a b h
  simpa using h

variable {entries : List (String × String)} {key : String}

theorem get?_ofList_map_below : (ofList (entries.map (below path))).get? key = some value ↔
    ∃ k, key = Path.key path ++ "." ++ k ∧ (ofList entries).get? k = some value := by
  have hbelow (k : String) : lastValue (entries.map (below path)) (Path.key path ++ "." ++ k) =
      lastValue entries k := lastValue_map_key (below_injective path) k
  rw [get?_ofList]
  constructor
  · intro h
    obtain ⟨before, after, hentries, -⟩ := lastValue_eq_some_iff.mp h
    have hmem : (key, value) ∈ entries.map (below path) := by simp [hentries]
    obtain ⟨e, -, he⟩ := List.mem_map.mp hmem
    obtain ⟨rfl, -⟩ := Prod.mk.inj he
    exact ⟨e.1, rfl, by rw [get?_ofList, ← hbelow, h]⟩
  · rintro ⟨k, rfl, hk⟩
    rw [hbelow, ← get?_ofList, hk]

section Subtree

variable (hpath : (Path.key path).toList.getLast? ≠ some '.')
include hpath

/-- The subtree under a path holds what was assigned below the path. -/
theorem sub_ofList_map_below : (ofList (entries.map (below path))).sub (Path.key path) =
    ofList entries := by
  refine ext_get? fun key => Option.ext fun value => ?_
  rw [get?_sub, ofList_underPath hpath, get?_ofList_map_below]
  constructor
  · rintro ⟨k, hk, h⟩
    rwa [below_injective path hk]
  · exact fun h => ⟨key, rfl, h⟩

theorem size_ofList_map_below : (ofList (entries.map (below path))).size =
    (ofList entries).size := by
  have hall : ∀ e ∈ (ofList (entries.map (below path))).toList,
      underPath (Path.key path) <+: e.1.toList := by
    rintro ⟨key, value⟩ he
    obtain ⟨k, rfl, -⟩ := get?_ofList_map_below.mp (mem_toList_iff.mp he)
    rw [String.toList_append, ← ofList_underPath hpath, String.toList_ofList]
    exact List.prefix_append _ _
  rw [← size_sub hall, sub_ofList_map_below hpath]

end Subtree

/-- A file that can be read alone can be read under a base path. What is under the path is then what
the file alone gives, and there is nothing else. A file that cannot be read fails alike. -/
theorem readUnder_sub {base text : String} {path : Path} (hbase : Spells base.toList path) :
    (∀ p, (read text).1 = .ok p → ∃ q, (readUnder base text).1 = .ok q ∧
      q.sub (Path.key path) = p ∧ q.size = p.size ∧
      ∀ key value, q.get? key = some value ↔
        ∃ k, key = Path.key path ++ "." ++ k ∧ p.get? k = some value) ∧
    ∀ f, (read text).1 = .error f → (readUnder base text).1 = .error f := by
  have hbelow : SpellsBase base.toList path := .inr hbase
  rcases saysAll_or_refuses (lines text.toList) with
    ⟨said, h⟩ | ⟨before, line, after, said, fault, hfile, hbefore, hr⟩
  · rw [read, readUnder_of_saysAll spellsBase_empty h, readUnder_of_saysAll hbelow h,
      assignments_eq_map_below hbase.ne_nil h.keyed]
    refine ⟨?_, by simp⟩
    rintro p hp
    obtain rfl := Except.ok.inj hp
    exact ⟨_, rfl, sub_ofList_map_below hbase.getLast?_key,
      size_ofList_map_below hbase.getLast?_key, fun _ _ => get?_ofList_map_below⟩
  · rw [read, readUnder_of_refuses spellsBase_empty hfile hbefore hr,
      readUnder_of_refuses hbelow hfile hbefore hr]
    exact ⟨by simp, fun f hf => hf⟩

/-- A file with an empty header, a value that is overridden and keys that start with the path that
it is read under. -/
def nested : String := "a.b.x = 1\n[a.b]\ny = 2\n[]\nx = 3\nx = 4\n"

theorem readUnder_sub_nested :
    Spells " a . b ".toList ["a", "b"] ∧
    (read nested).1 = .ok (ofList [("a.b.x", "1"), ("a.b.y", "2"), ("x", "4")]) ∧
    (∃ q, (readUnder " a . b " nested).1 = .ok q ∧
      q.sub "a.b" = ofList [("a.b.x", "1"), ("a.b.y", "2"), ("x", "4")] ∧ q.size = 3 ∧
      q.get? "a.b.a.b.y" = some "2") ∧
    (read (nested ++ "y\n")).1 = .error (.parameterLine 7 (.unrecognised "y")) ∧
    (readUnder " a . b " (nested ++ "y\n")).1 = .error (.parameterLine 7 (.unrecognised "y")) := by
  have hbase : Spells " a . b ".toList ["a", "b"] := spells_iff.mpr (by decide)
  have hok : (read nested).1 = .ok (ofList [("a.b.x", "1"), ("a.b.y", "2"), ("x", "4")]) := by
    decide +kernel
  have hfault : (read (nested ++ "y\n")).1 = .error (.parameterLine 7 (.unrecognised "y")) := by
    decide +kernel
  obtain ⟨q, hq, hsub, hsize, hget⟩ := (readUnder_sub hbase).1 _ hok
  exact ⟨hbase, hok, ⟨q, hq, hsub, hsize.trans (by decide +kernel),
    (hget _ _).mpr ⟨"a.b.y", by decide, by decide +kernel⟩⟩, hfault,
    (readUnder_sub hbase).2 _ hfault⟩

end ModuleClosure.Parameters
