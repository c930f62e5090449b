import Mathlib.Data.List.DropRight
import ModuleClosure.Parameters.Reader
import ModuleClosure.Proofs.Parameters.Entries
import ModuleClosure.Proofs.Parameters.Line
import ModuleClosure.Proofs.Reading

/-!
# The meaning of parameter files

A file whose lines all say something is a list of assignments. The key of an assignment is the base
path, then what the headers since the last empty one opened, then its own path. Each key has the
value that was assigned to it last, and each assignment to a key that has a value is reported with
that value. The first line that is refused decides the failure.
-/
namespace ModuleClosure.Parameters
open Text

section Earlier

variable {α : Type}

/-- Each element with those before it, which come after `earlier`. -/
def withEarlier (earlier : List α) : List α → List (List α × α)
  | [] => []
  | x :: xs => (earlier, x) :: withEarlier (earlier ++ [x]) xs

theorem withEarlier_concat (earlier xs : List α) (x : α) :
    withEarlier earlier (xs ++ [x]) = withEarlier earlier xs ++ [(earlier ++ xs, x)] := by
  induction xs generalizing earlier with
  | nil => simp [withEarlier]
  | cons y xs ih => simp [withEarlier, ih]

end Earlier

/-- What a header adds to the open sections. -/
def Line.opened : Line → Path
  | enter path => path
  | _ => []

/-- The sections that are open behind lines: those of the headers since the last empty one. -/
def openAfter (said : List Line) : Path := (said.rtakeWhile (· ≠ .leave)).flatMap Line.opened

/-- The full key and the value of an assignment below a path. -/
def Line.entry? (front : Path) : Line → Option (String × String)
  | assign path value => some (Path.key (front ++ path), value)
  | _ => none

/-- The assignments of lines in order, each with its full key. -/
def assignments (base : Path) (said : List Line) : List (String × String) :=
  (withEarlier [] said).filterMap fun (earlier, line) => line.entry? (base ++ openAfter earlier)

/-- What there is to report: for each assignment to a key that has a value, the value before. -/
def overridings (entries : List (String × String)) : List Notice :=
  (withEarlier [] entries).filterMap fun (earlier, key, _) =>
    (lastValue earlier key).map (.parameterOverridden key)

variable {base : Path} {said : List Line} {line : Line} {entries : List (String × String)}
  {key value : String}

theorem openAfter_concat : openAfter (said ++ [line]) =
    if line = .leave then [] else openAfter said ++ line.opened := by
  rw [openAfter, List.rtakeWhile_concat]
  by_cases h : line = .leave <;> simp [h, openAfter]

theorem assignments_concat : assignments base (said ++ [line]) =
    assignments base said ++ (line.entry? (base ++ openAfter said)).toList := by
  rw [assignments, withEarlier_concat, List.filterMap_append]
  cases h : line.entry? (base ++ openAfter said) <;> simp [h, assignments]

theorem overridings_concat : overridings (entries ++ [(key, value)]) =
    overridings entries ++ ((lastValue entries key).map (.parameterOverridden key)).toList := by
  rw [overridings, withEarlier_concat, List.filterMap_append]
  cases h : lastValue entries key <;> simp [h, overridings]

/-- Each assignment makes a new entry or is reported. -/
theorem length_eq_size_add (entries : List (String × String)) :
    entries.length = (ofList entries).size + (overridings entries).length := by
  induction entries using List.reverseRec with
  | nil => simp [ofList, size, overridings, withEarlier]
  | append_singleton entries e ih =>
    obtain ⟨k, v⟩ := e
    have hmem : k ∈ (ofList entries).values ↔ (lastValue entries k).isSome = true := by
      rw [← get?_ofList, get?, Std.ExtTreeMap.mem_iff_isSome_getElem?]
    have hsize : ((ofList entries).insert k v).size =
        if k ∈ (ofList entries).values then (ofList entries).size else (ofList entries).size + 1 :=
      Std.ExtTreeMap.size_insert
    rw [List.length_append, ih, ofList_concat, overridings_concat, hsize]
    cases hv : lastValue entries k with
    | none =>
      rw [if_neg (by simp [hmem, hv])]
      simp only [Option.map_none, Option.toList_none, List.append_nil, List.length_singleton]
      omega
    | some old =>
      rw [if_pos (by simp [hmem, hv])]
      simp only [Option.map_some, Option.toList_some, List.length_append, List.length_singleton]
      omega

/-- What is known behind lines. -/
def Reading.behind (base : Path) (said : List Line) : Reading where
  sections := openAfter said
  parameters := ofList (assignments base said)
  notices := overridings (assignments base said)

theorem Reading.assign_behind (hentry : line.entry? (base ++ openAfter said) = some (key, value))
    (hopen : openAfter (said ++ [line]) = openAfter said) :
    (behind base said).assign key value = behind base (said ++ [line]) := by
  have hassign : assignments base (said ++ [line]) = assignments base said ++ [(key, value)] := by
    rw [assignments_concat, hentry, Option.toList_some]
  rw [behind, behind, hassign, hopen, ofList_concat, overridings_concat, assign, get?_ofList]
  cases lastValue (assignments base said) key <;> rfl

/-- What one more line adds. -/
theorem Reading.apply_behind (base : Path) (said : List Line) (line : Line) :
    (behind base said).apply base line = behind base (said ++ [line]) := by
  cases line with
  | skipped => simp [apply, behind, openAfter_concat, assignments_concat, Line.opened, Line.entry?]
  | leave => simp [apply, behind, openAfter_concat, assignments_concat, Line.entry?]
  | enter path =>
    simp [apply, behind, openAfter_concat, assignments_concat, Line.opened, Line.entry?]
  | assign path value =>
    exact assign_behind rfl (by simp [openAfter_concat, Line.opened])

theorem Reading.foldl_behind (base : Path) (earlier said : List Line) :
    said.foldl (Reading.apply base) (behind base earlier) = behind base (earlier ++ said) := by
  induction said generalizing earlier with
  | nil => simp
  | cons line said ih => rw [List.foldl_cons, apply_behind, ih, List.append_assoc]; rfl

/-- Lines and what they say. -/
abbrev SaysAll (file : List (List Char)) (said : List Line) : Prop :=
  List.Forall₂ (fun line => Says (trim line)) file said

variable {file before after rest : List (List Char)} {number : Nat} {r : Reading} {f : Failure}

/-- Blanks around lines do not matter. -/
theorem readLines_congr {others : List (List Char)} (h : file.map trim = others.map trim) :
    readLines base number r file = readLines base number r others := by
  induction file generalizing others number r with
  | nil => rw [List.map_eq_nil_iff.mp h.symm]
  | cons line file ih =>
    cases others with
    | nil => cases h
    | cons other others =>
      obtain ⟨hline, hfile⟩ := List.cons.inj h
      rw [readLines, readLines, hline]
      cases Line.ofText (trim other) with
      | error fault => rfl
      | ok l => exact ih hfile

/-- Lines that say something are read one after another. -/
theorem readLines_append (h : SaysAll before said) :
    readLines base number r (before ++ rest) =
      readLines base (number + before.length) (said.foldl (Reading.apply base) r) rest := by
  induction h generalizing number r with
  | nil => rfl
  | cons hs _ ih =>
    rw [List.cons_append, readLines, hs.ofText_eq]
    dsimp only
    rw [ih, List.length_cons, Nat.add_assoc, Nat.add_comm 1]
    rfl

/-- What is known behind lines that all say something. -/
theorem readLines_append_behind (h : SaysAll before said) :
    readLines base number {} (before ++ rest) =
      readLines base (number + before.length) (Reading.behind base said) rest := by
  have hstart : Reading.behind base [] = {} := rfl
  rw [readLines_append h, ← hstart, Reading.foldl_behind, List.nil_append]

theorem readLines_of_saysAll (h : SaysAll file said) : readLines base number {} file =
    (.ok (ofList (assignments base said)), overridings (assignments base said)) := by
  rw [← List.append_nil file, readLines_append_behind h]
  rfl

theorem readLines_of_refuses {line : List Char} {after : List (List Char)} {fault : LineFault}
    (hbefore : SaysAll before said) (hr : Refuses (trim line) fault) :
    readLines base number {} (before ++ line :: after) =
      (.error (.parameterLine (number + before.length) fault),
        overridings (assignments base said)) := by
  rw [readLines_append_behind hbefore, readLines, hr.ofText_eq]
  rfl

/-- The whole file says something, or there is a first line that is refused. -/
theorem saysAll_or_refuses (file : List (List Char)) :
    (∃ said, SaysAll file said) ∨ ∃ before line after said fault, file = before ++ line :: after ∧
      SaysAll before said ∧ Refuses (trim line) fault := by
  by_cases hall : ∀ line ∈ file, ∃ said, Says (trim line) said
  · exact .inl (exists_forall₂_iff.mpr hall)
  · obtain ⟨before, line, after, hfile, hbefore, hline⟩ := exists_first_not hall
    obtain ⟨said, hsaid⟩ := exists_forall₂_iff.mpr hbefore
    obtain ⟨fault, hr⟩ := (says_or_refuses (trim line)).resolve_left hline
    exact .inr ⟨before, line, after, said, fault, hfile, hsaid, hr⟩

/-- The path of a base: none if its text is blank. -/
def SpellsBase (text : List Char) (path : Path) : Prop :=
  Blank text ∧ path = [] ∨ Spells text path

theorem spellsBase_empty : SpellsBase "".toList [] := .inl ⟨nofun, rfl⟩

/-- A base is a path, or nothing is read under it. -/
theorem spellsBase_or_refused (base : String) : (∃ path, SpellsBase base.toList path) ∨
    ∃ fault, ∀ text, readUnder base text = (.error (.parameterLine 0 fault), []) := by
  by_cases hb : Blank base.toList
  · exact .inl ⟨[], .inl ⟨hb, rfl⟩⟩
  by_cases hp : ∃ path, Spells base.toList path
  · exact .inl (hp.imp fun _ => .inr)
  · refine .inr ⟨.emptySegment (String.ofList (trim base.toList)), fun text => ?_⟩
    rw [readUnder, pathOf_of_not_spells hb (not_exists.mp hp)]

section Reading

variable {text baseText : String} {path : Path} {fault : LineFault}
  (hbase : SpellsBase baseText.toList path)
include hbase

theorem readUnder_eq : readUnder baseText text = readLines path 1 {} (lines text.toList) := by
  have hpath : pathOf baseText.toList = .ok path := by
    rcases hbase with ⟨hb, rfl⟩ | hp
    · exact pathOf_of_blank hb
    · exact pathOf_of_spells hp
  rw [readUnder, hpath]

theorem readUnder_of_saysAll (h : SaysAll (lines text.toList) said) :
    readUnder baseText text =
      (.ok (ofList (assignments path said)), overridings (assignments path said)) := by
  rw [readUnder_eq hbase, readLines_of_saysAll h]

theorem readUnder_of_refuses {line : List Char}
    (hfile : lines text.toList = before ++ line :: after)
    (hbefore : SaysAll before said) (hr : Refuses (trim line) fault) :
    readUnder baseText text = (.error (.parameterLine (before.length + 1) fault),
      overridings (assignments path said)) := by
  rw [readUnder_eq hbase, hfile, readLines_of_refuses hbefore hr, Nat.add_comm]

end Reading

theorem Refuses.not_says {line : List Char} {fault : LineFault} (h : Refuses line fault) :
    ¬ ∃ said, Says line said := by
  rintro ⟨said, hs⟩
  cases hs.ofText_eq.symm.trans h.ofText_eq

/-- A file is read if each of its lines is silent, a header or an assignment. The parameters then
have for each full key the value assigned last, and each assignment to a key that had a value is
reported with that value. Otherwise the first line that is none of these decides the failure. -/
theorem readUnder_meaning {baseText text : String} {path : Path}
    (hbase : SpellsBase baseText.toList path) :
    ((∃ p, (readUnder baseText text).1 = .ok p) ↔
      ∀ line ∈ lines text.toList, ∃ said, Says (trim line) said) ∧
    (∀ said, SaysAll (lines text.toList) said →
      ∃ p, readUnder baseText text = (.ok p, overridings (assignments path said)) ∧
        (∀ key value, p.get? key = some value ↔ ∃ before after,
          assignments path said = before ++ (key, value) :: after ∧ ∀ e ∈ after, e.1 ≠ key) ∧
        (assignments path said).length =
          p.size + (overridings (assignments path said)).length) ∧
    ∀ f notices, readUnder baseText text = (.error f, notices) ↔
      ∃ before line after said fault, lines text.toList = before ++ line :: after ∧
        SaysAll before said ∧ Refuses (trim line) fault ∧
        f = .parameterLine (before.length + 1) fault ∧
        notices = overridings (assignments path said) := by
  have hok (said : List Line) (h : SaysAll (lines text.toList) said) :=
    readUnder_of_saysAll hbase h
  refine ⟨?_, fun said h => ?_, fun f notices => ?_⟩
  · rcases saysAll_or_refuses (lines text.toList) with
      ⟨said, h⟩ | ⟨before, line, after, said, fault, hfile, hbefore, hr⟩
    · exact ⟨fun _ => exists_forall₂_iff.mp ⟨said, h⟩, fun _ => ⟨_, congrArg Prod.fst (hok said h)⟩⟩
    · refine ⟨fun ⟨p, hp⟩ => ?_, fun hall => absurd (hall line (by simp [hfile])) hr.not_says⟩
      rw [readUnder_of_refuses hbase hfile hbefore hr] at hp
      cases hp
  · refine ⟨_, hok said h, fun key value => ?_, length_eq_size_add _⟩
    rw [get?_ofList, lastValue_eq_some_iff]
  · constructor
    · intro hf
      rcases saysAll_or_refuses (lines text.toList) with
        ⟨said, h⟩ | ⟨before, line, after, said, fault, hfile, hbefore, hr⟩
      · cases hf.symm.trans (hok said h)
      · cases hf.symm.trans (readUnder_of_refuses hbase hfile hbefore hr)
        exact ⟨before, line, after, said, fault, hfile, hbefore, hr, rfl, rfl⟩
    · rintro ⟨before, line, after, said, fault, hfile, hbefore, hr, rfl, rfl⟩
      exact readUnder_of_refuses hbase hfile hbefore hr

/-- One key spelled by a dotted header, by two headers, and alone. -/
def spellings : String :=
  "x = 0\n[g.h]\nb.c = \"1\"\n[]\n; note\n[g]\n[ h ]\nb . c = '2\n[]\ng.h.b.c=3\n"

def spellingLines : List Line :=
  [.assign ["x"] "0", .enter ["g", "h"], .assign ["b", "c"] "1", .leave, .skipped, .enter ["g"],
    .enter ["h"], .assign ["b", "c"] "'2", .leave, .assign ["g", "h", "b", "c"] "3"]

theorem readUnder_meaning_spellings :
    SpellsBase " p".toList ["p"] ∧ SaysAll (lines spellings.toList) spellingLines ∧
    ∃ p, readUnder " p" spellings = (.ok p, [.parameterOverridden "p.g.h.b.c" "1",
        .parameterOverridden "p.g.h.b.c" "'2"]) ∧
      p.get? "p.g.h.b.c" = some "3" ∧ 4 = p.size + 2 := by
  have hbase : SpellsBase " p".toList ["p"] := .inr (spells_iff.mpr (by decide))
  have hsaid : SaysAll (lines spellings.toList) spellingLines :=
    List.Forall₂.imp (fun _ _ => ofText_eq_ok_iff.mp) (by decide +kernel)
  obtain ⟨-, hok, -⟩ := @readUnder_meaning " p" spellings ["p"] hbase
  obtain ⟨p, hread, hget, hsize⟩ := hok _ hsaid
  have hentries : assignments ["p"] spellingLines = [("p.x", "0"), ("p.g.h.b.c", "1"),
      ("p.g.h.b.c", "'2"), ("p.g.h.b.c", "3")] := by decide +kernel
  rw [hentries] at hread hget hsize
  have hlast : p.get? "p.g.h.b.c" = some "3" := (hget _ _).mpr
    ⟨[("p.x", "0"), ("p.g.h.b.c", "1"), ("p.g.h.b.c", "'2")], [], rfl, nofun⟩
  exact ⟨hbase, hsaid, p, hread, hlast, hsize⟩

end ModuleClosure.Parameters
