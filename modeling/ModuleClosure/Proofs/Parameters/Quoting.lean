import ModuleClosure.Proofs.Parameters.File
import ModuleClosure.Proofs.Text.Lines

/-!
# Writing parameters

Parameters are written one a line, with each value between quotes, and read back whatever the values
are, as long as each stands on one line: exactly one pair of quotes is taken off, and nothing that
is between them is trimmed. The keys are those that can stand before an equals sign at the start of
a line.
-/
namespace ModuleClosure.Parameters
open Text

/-- A key that can stand at the start of a line, before an equals sign: none of its segments is
empty or has blanks around it. -/
structure IsWritable (key : String) : Prop where
  segments : ∀ x ∈ fields '.' key.toList, x ≠ [] ∧ trim x = x
  start : key.toList.head? ≠ some '#' ∧ key.toList.head? ≠ some ';' ∧ key.toList.head? ≠ some '['
  equals : '=' ∉ key.toList
  feed : '\n' ∉ key.toList

instance (key : String) : Decidable (IsWritable key) :=
  decidable_of_iff
    (((fields '.' key.toList).all fun x => decide (x ≠ [] ∧ trim x = x)) = true ∧
      (key.toList.head? ≠ some '#' ∧ key.toList.head? ≠ some ';' ∧ key.toList.head? ≠ some '[') ∧
      '=' ∉ key.toList ∧ '\n' ∉ key.toList)
    ⟨fun ⟨hsegments, hstart, hequals, hfeed⟩ =>
      ⟨by simpa using hsegments, hstart, hequals, hfeed⟩,
    fun h => ⟨by simpa using h.segments, h.start, h.equals, h.feed⟩⟩

/-- A line that gives a key a value between two marks. -/
def assignmentText (mark : Char) (entry : String × String) : String :=
  entry.1 ++ " = " ++ String.singleton mark ++ entry.2 ++ String.singleton mark

/-- Entries one a line, with their values between marks. -/
def written (mark : Char) (entries : List (String × String)) : String :=
  "\n".intercalate (entries.map (assignmentText mark))

/-- The path that a key spells. -/
def pathOfKey (key : String) : Path := (fields '.' key.toList).map String.ofList

/-- What the line of an entry says. -/
def Line.ofEntry (entry : String × String) : Line := .assign (pathOfKey entry.1) entry.2

variable {mark : Char} {key value : String} {entries : List (String × String)}

theorem toList_assignmentText (mark : Char) (key value : String) :
    (assignmentText mark (key, value)).toList =
      key.toList ++ ' ' :: '=' :: ' ' :: mark :: (value.toList ++ [mark]) := by
  simp [assignmentText]

theorem key_pathOfKey (key : String) : Path.key (pathOfKey key) = key := by
  rw [← String.toList_inj, Path.key, String.toList_intercalate, pathOfKey, List.map_map]
  have hid : String.toList ∘ String.ofList = id := funext fun _ => String.toList_ofList
  rw [hid, List.map_id, fields_eq_splitOn]
  exact List.intercalate_splitOn '.'

/-- A writable key starts with a character that is no blank. -/
theorem IsWritable.exists_cons (h : IsWritable key) :
    ∃ c r, key.toList = c :: r ∧ isBlank c = false := by
  obtain ⟨hne, hkey, -⟩ := fields_eq_iff.mp (rfl : fields '.' key.toList = _)
  cases hfields : fields '.' key.toList with
  | nil => exact absurd hfields hne
  | cons x xs =>
    obtain ⟨hx, htrim⟩ := h.segments x (by simp [hfields])
    cases x with
    | nil => exact absurd rfl hx
    | cons c x =>
      have hc : isBlank c = false := stops_cons.mp (htrim ▸ stops_trim (c :: x))
      rw [hfields] at hkey
      exact ⟨c, _, hkey.trans List.intercalate_cons_cons_left, hc⟩

theorem IsWritable.spells (h : IsWritable key) : Spells (key.toList ++ [' ']) (pathOfKey key) := by
  have htrim : (fields '.' (key.toList ++ [' '])).map trim = fields '.' key.toList := by
    rw [map_trim_fields_append_right (by decide) (List.forall_mem_singleton.mpr rfl)]
    exact (List.map_congr_left fun x hx => (h.segments x hx).2).trans (List.map_id _)
  refine spells_iff.mpr ⟨fun x hx => ?_, ?_⟩
  · exact (h.segments (trim x) (htrim ▸ List.mem_map_of_mem hx)).1
  · rw [pathOfKey, ← htrim, List.map_map]
    rfl

section Mark

variable (hmark : mark = '"' ∨ mark = '\'')
include hmark

theorem isBlank_mark : isBlank mark = false := by
  rcases hmark with rfl | rfl <;> decide

theorem trim_between (inner : List Char) :
    trim (' ' :: mark :: (inner ++ [mark])) = mark :: (inner ++ [mark]) := by
  have hstart : Stops isBlank (mark :: inner) := stops_cons.mpr (isBlank_mark hmark)
  calc trim ([' '] ++ mark :: (inner ++ [mark]))
    _ = trim ((mark :: inner) ++ mark :: []) :=
      trim_append_left (List.forall_mem_singleton.mpr rfl)
    _ = (mark :: inner) ++ mark :: trimEnd [] := trim_append_cons hstart (isBlank_mark hmark) []

theorem denotes_between (inner : List Char) :
    Denotes (trim (' ' :: mark :: (inner ++ [mark]))) inner := by
  rw [trim_between hmark]
  rcases hmark with rfl | rfl
  · exact .inl (.inl rfl)
  · exact .inl (.inr rfl)

theorem trim_assignmentText (h : IsWritable key) (value : String) :
    trim (assignmentText mark (key, value)).toList = (assignmentText mark (key, value)).toList := by
  obtain ⟨c, r, hkey, hc⟩ := h.exists_cons
  have hline : (assignmentText mark (key, value)).toList =
      (c :: (r ++ ' ' :: '=' :: ' ' :: mark :: value.toList)) ++ mark :: [] := by
    rw [toList_assignmentText, hkey]
    simp
  rw [hline]
  exact trim_append_cons (stops_cons.mpr hc) (isBlank_mark hmark) []

/-- The line of an entry says that the key gets the value. -/
theorem says_assignmentText (h : IsWritable key) (value : String) :
    Says (trim (assignmentText mark (key, value)).toList) (Line.ofEntry (key, value)) := by
  obtain ⟨c, r, hkey, -⟩ := h.exists_cons
  have hline : (assignmentText mark (key, value)).toList =
      (key.toList ++ [' ']) ++ '=' :: (' ' :: mark :: (value.toList ++ [mark])) := by
    rw [toList_assignmentText]
    simp
  have hordinary : Ordinary (assignmentText mark (key, value)).toList := by
    rw [toList_assignmentText, hkey]
    exact ⟨c, _, rfl, by simpa [hkey] using h.start⟩
  have hequals : '=' ∉ key.toList ++ [' '] := by simp [h.equals]
  have hsays := Says.assign hordinary hline hequals h.spells (denotes_between hmark value.toList)
  rw [trim_assignmentText hmark h]
  rwa [String.ofList_toList] at hsays

/-- The line of an entry is one line, and none of it is taken for its end. -/
theorem line_assignmentText (h : IsWritable key) (hvalue : '\n' ∉ value.toList) :
    (assignmentText mark (key, value)).toList ≠ [] ∧
      '\n' ∉ (assignmentText mark (key, value)).toList ∧
      withoutReturn (assignmentText mark (key, value)).toList =
        (assignmentText mark (key, value)).toList := by
  have hfeed : mark ≠ '\n' := by
    rcases hmark with rfl | rfl <;> decide
  have hreturn : mark ≠ '\r' := by
    rcases hmark with rfl | rfl <;> decide
  have hlast : (assignmentText mark (key, value)).toList.getLast? = some mark := by
    rw [toList_assignmentText, List.getLast?_eq_some_iff]
    exact ⟨key.toList ++ ' ' :: '=' :: ' ' :: mark :: value.toList, by simp⟩
  refine ⟨by simp [toList_assignmentText], ?_, if_neg (by simpa [hlast] using hreturn)⟩
  simp [toList_assignmentText, h.feed, hvalue, hfeed.symm]

end Mark

theorem openAfter_map_ofEntry (entries : List (String × String)) :
    openAfter (entries.map Line.ofEntry) = [] := by
  induction entries using List.reverseRec with
  | nil => rfl
  | append_singleton entries e ih =>
    rw [List.map_append, List.map_singleton, openAfter_concat, ih]
    rfl

/-- Lines of entries assign what the entries say. -/
theorem assignments_map_ofEntry (entries : List (String × String)) :
    assignments [] (entries.map Line.ofEntry) = entries := by
  induction entries using List.reverseRec with
  | nil => rfl
  | append_singleton entries e ih =>
    rw [List.map_append, List.map_singleton, assignments_concat, ih, openAfter_map_ofEntry,
      Line.ofEntry, Line.entry?, List.nil_append, List.nil_append, key_pathOfKey]
    rfl

/-- An empty line at the end of a file does not matter. -/
theorem readLines_append_blank (base : Path) (number : Nat) (r : Reading)
    (file : List (List Char)) :
    readLines base number r (file ++ [[]]) = readLines base number r file := by
  induction file generalizing number r with
  | nil => rfl
  | cons line file ih =>
    rw [List.cons_append, readLines, readLines]
    cases Line.ofText (trim line) with
    | error fault => rfl
    | ok l => exact ih (number + 1) (r.apply base l)

/-- A line feed at the end of a file does not matter. -/
theorem read_append_feed (text : String) : read (text ++ "\n") = read text := by
  obtain ⟨gap, hgap, hlines⟩ := exists_gap text.toList
  have htrim : (lines (text ++ "\n").toList).map trim = (lines text.toList ++ gap).map trim := by
    rw [String.toList_append]
    simpa [lines] using hlines []
  rw [read, readUnder_eq spellsBase_empty, readLines_congr htrim, read,
    readUnder_eq spellsBase_empty]
  rcases hgap with rfl | rfl
  · rw [List.append_nil]
  · exact readLines_append_blank _ _ _ _

section Written

variable (hmark : mark = '"' ∨ mark = '\'')
  (h : ∀ e ∈ entries, IsWritable e.1 ∧ '\n' ∉ e.2.toList)
include hmark h

/-- The written text has one line for each entry. -/
theorem lines_written : lines (written mark entries).toList =
    entries.map fun e => (assignmentText mark e).toList := by
  rw [written, String.toList_intercalate, List.map_map]
  refine lines_intercalate (List.forall_mem_map.mpr fun e he => ?_)
  exact line_assignmentText hmark (h e he).1 (h e he).2

theorem saysAll_written :
    SaysAll (lines (written mark entries).toList) (entries.map Line.ofEntry) := by
  rw [lines_written hmark h, SaysAll, List.forall₂_map_left_iff, List.forall₂_map_right_iff,
    List.forall₂_same]
  exact fun e he => says_assignmentText hmark (h e he).1 e.2

end Written

/-- Entries with different keys override nothing. -/
theorem overridings_of_perm {p : Parameters} (h : entries.Perm p.toList) :
    overridings entries = [] := by
  have hcount := length_eq_size_add entries
  rw [ofList_of_perm h, h.length_eq, length_toList] at hcount
  exact List.eq_nil_of_length_eq_zero (by omega)

/-- Parameters that are written one a line between quotes, in whatever order, are read back, and
nothing is overridden on the way. -/
theorem read_written {p : Parameters} (hmark : mark = '"' ∨ mark = '\'')
    (hp : ∀ key value, p.get? key = some value → IsWritable key ∧ '\n' ∉ value.toList)
    (hentries : entries.Perm p.toList) :
    read (written mark entries) = (.ok p, []) ∧
      read (written mark entries ++ "\n") = (.ok p, []) := by
  have hall : ∀ e ∈ entries, IsWritable e.1 ∧ '\n' ∉ e.2.toList := fun e he =>
    hp e.1 e.2 (mem_toList_iff.mp (hentries.mem_iff.mp he))
  have hread : read (written mark entries) = (.ok p, []) := by
    rw [read, readUnder_of_saysAll spellsBase_empty (saysAll_written hmark hall),
      assignments_map_ofEntry, ofList_of_perm hentries, overridings_of_perm hentries]
  exact ⟨hread, (read_append_feed _).trans hread⟩

/-- Keys with inner blanks and signs, and values that begin or end with quotes, blanks and carriage
returns. -/
def quotes : List (String × String) :=
  [("k", "\""), ("a b.c", "'x'"), ("a b.c;#[", " = # \r"), ("é", "\"'"), ("a b", ""),
    ("z.]", "\"é\"")]

theorem read_written_quotes :
    (∀ key value, (ofList quotes).get? key = some value →
      IsWritable key ∧ '\n' ∉ value.toList) ∧
    quotes.Perm (ofList quotes).toList ∧
    read (written '"' quotes) = (.ok (ofList quotes), []) ∧
    read (written '\'' quotes ++ "\n") = (.ok (ofList quotes), []) := by
  have hnodup : (quotes.map Prod.fst).Nodup := by decide
  have hall : ∀ e ∈ quotes, IsWritable e.1 ∧ '\n' ∉ e.2.toList := by decide +kernel
  have hp : ∀ key value, (ofList quotes).get? key = some value →
      IsWritable key ∧ '\n' ∉ value.toList := by
    intro key value h
    rw [get?_ofList, lastValue_eq_some_iff_mem hnodup] at h
    exact hall _ h
  have hperm : quotes.Perm (ofList quotes).toList := (perm_toList_ofList hnodup).symm
  exact ⟨hp, hperm, (read_written (.inl rfl) hp hperm).1, (read_written (.inr rfl) hp hperm).2⟩

end ModuleClosure.Parameters
