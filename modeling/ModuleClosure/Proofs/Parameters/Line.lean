import ModuleClosure.Parameters.Line
import ModuleClosure.Proofs.Reading
import ModuleClosure.Proofs.Text.Blank

/-!
# The grammar of parameter lines

A trimmed line is silent, or a header in brackets, or an assignment. `Says` is this grammar, and
`Refuses` has the fault of every other line. Each line says something or is refused, and reading it
tells which.
-/
namespace ModuleClosure.Parameters
open Text

/-- A path written with dots. Blanks around a segment do not count, and no segment is blank. -/
def Spells (text : List Char) (path : Path) : Prop :=
  ∃ parts, parts ≠ [] ∧ text = ['.'].intercalate parts ∧ (∀ x ∈ parts, '.' ∉ x ∧ trim x ≠ []) ∧
    path = parts.map fun x => String.ofList (trim x)

/-- Only blanks. -/
def Blank (text : List Char) : Prop := ∀ c ∈ text, isBlank c = true

/-- A text between two quotes of one kind. -/
def Quoted (text inner : List Char) : Prop :=
  text = '"' :: inner ++ ['"'] ∨ text = '\'' :: inner ++ ['\'']

/-- The value that a text stands for: what is between its quotes, or the text if it has none. -/
def Denotes (text value : List Char) : Prop :=
  Quoted text value ∨ (∀ inner, ¬ Quoted text inner) ∧ value = text

/-- A line that begins neither a comment nor a header. -/
def Ordinary (line : List Char) : Prop :=
  ∃ c r, line = c :: r ∧ c ≠ '#' ∧ c ≠ ';' ∧ c ≠ '['

/-- What a trimmed line says. -/
inductive Says (line : List Char) : Line → Prop
  | skipped (h : line = [] ∨ line.head? = some '#' ∨ line.head? = some ';') : Says line .skipped
  | leave {inside} (h : line = '[' :: inside ++ [']']) (hb : Blank inside) : Says line .leave
  | enter {inside path} (h : line = '[' :: inside ++ [']']) (hp : Spells inside path) :
      Says line (.enter path)
  | assign {key rest path value} (hl : Ordinary line) (h : line = key ++ '=' :: rest)
      (hk : '=' ∉ key) (hp : Spells key path) (hv : Denotes (trim rest) value) :
      Says line (.assign path (String.ofList value))

/-- Why a trimmed line says nothing. -/
inductive Refuses (line : List Char) : LineFault → Prop
  | openHeader {inside} (h : line = '[' :: inside) (he : ∀ name, inside ≠ name ++ [']']) :
      Refuses line (.openHeader (String.ofList line))
  | header {inside} (h : line = '[' :: inside ++ [']']) (hb : ¬ Blank inside)
      (hp : ∀ path, ¬ Spells inside path) :
      Refuses line (.emptySegment (String.ofList (trim inside)))
  | unrecognised (hl : Ordinary line) (h : '=' ∉ line) :
      Refuses line (.unrecognised (String.ofList line))
  | emptyKey {key rest} (hl : Ordinary line) (h : line = key ++ '=' :: rest) (hk : '=' ∉ key)
      (hb : Blank key) : Refuses line .emptyKey
  | key {key rest} (hl : Ordinary line) (h : line = key ++ '=' :: rest) (hk : '=' ∉ key)
      (hb : ¬ Blank key) (hp : ∀ path, ¬ Spells key path) :
      Refuses line (.emptySegment (String.ofList (trim key)))

variable {text inner value line inside : List Char} {path : Path} {said : Line} {fault : LineFault}

/-- Each line says something or is refused. -/
theorem says_or_refuses (line : List Char) :
    (∃ said, Says line said) ∨ ∃ fault, Refuses line fault := by
  rcases line with _ | ⟨c, r⟩
  · exact .inl ⟨_, .skipped (.inl rfl)⟩
  by_cases hhash : c = '#'
  · exact .inl ⟨_, .skipped (.inr (.inl (congrArg some hhash)))⟩
  by_cases hsemi : c = ';'
  · exact .inl ⟨_, .skipped (.inr (.inr (congrArg some hsemi)))⟩
  by_cases hopen : c = '['
  · subst c
    by_cases hclosed : ∃ name, r = name ++ [']']
    · obtain ⟨name, rfl⟩ := hclosed
      by_cases hb : Blank name
      · exact .inl ⟨_, .leave rfl hb⟩
      by_cases hp : ∃ path, Spells name path
      · obtain ⟨path, hp⟩ := hp
        exact .inl ⟨_, .enter rfl hp⟩
      · exact .inr ⟨_, .header rfl hb (not_exists.mp hp)⟩
    · exact .inr ⟨_, .openHeader rfl (not_exists.mp hclosed)⟩
  have hl : Ordinary (c :: r) := ⟨c, r, rfl, hhash, hsemi, hopen⟩
  cases hcut : cut? '=' (c :: r) with
  | none => exact .inr ⟨_, .unrecognised hl (cut?_eq_none_iff.mp hcut)⟩
  | some parts =>
    obtain ⟨key, rest⟩ := parts
    obtain ⟨h, hk⟩ := cut?_eq_some_iff.mp hcut
    by_cases hb : Blank key
    · exact .inr ⟨_, .emptyKey hl h hk hb⟩
    by_cases hp : ∃ path, Spells key path
    · obtain ⟨path, hp⟩ := hp
      by_cases hq : ∃ inner, Quoted (trim rest) inner
      · obtain ⟨inner, hq⟩ := hq
        exact .inl ⟨_, .assign hl h hk hp (.inl hq)⟩
      · exact .inl ⟨_, .assign hl h hk hp (.inr ⟨not_exists.mp hq, rfl⟩)⟩
    · exact .inr ⟨_, .key hl h hk hb (not_exists.mp hp)⟩

/-- The parts of a path are the fields of its text. -/
theorem spells_iff : Spells text path ↔ (∀ x ∈ fields '.' text, trim x ≠ []) ∧
    path = (fields '.' text).map fun x => String.ofList (trim x) := by
  constructor
  · rintro ⟨parts, hne, htext, hparts, rfl⟩
    have hfields : fields '.' text = parts :=
      fields_eq_iff.mpr ⟨hne, htext, fun x hx => (hparts x hx).1⟩
    rw [hfields]
    exact ⟨fun x hx => (hparts x hx).2, rfl⟩
  · rintro ⟨hfields, rfl⟩
    obtain ⟨hne, htext, hsep⟩ := fields_eq_iff.mp (rfl : fields '.' text = _)
    exact ⟨_, hne, htext, fun x hx => ⟨hsep x hx, hfields x hx⟩, rfl⟩

theorem Spells.not_blank (h : Spells text path) : ¬ Blank text := by
  intro hb
  have hdot : '.' ∉ text := fun hmem => absurd (hb '.' hmem) (by decide)
  have hfields : fields '.' text = [text] := by
    rw [fields_eq_splitOn, List.splitOn_eq_singleton hdot]
  rw [spells_iff, hfields] at h
  exact h.1 text List.mem_cons_self (trim_eq_nil_iff.mpr hb)

theorem pathOf_of_blank (h : Blank text) : pathOf text = .ok [] := by
  simp [pathOf, trim_eq_nil_iff.mpr h]

/-- A text that is not blank is a path by its trimmed fields. -/
theorem pathOf_of_not_blank (h : ¬ Blank text) : pathOf text =
    if [] ∈ (fields '.' text).map trim then .error (.emptySegment (String.ofList (trim text)))
    else .ok (((fields '.' text).map trim).map String.ofList) := by
  rw [pathOf]
  dsimp only
  rw [if_neg (mt trim_eq_nil_iff.mp h), map_trim_fields_trim (by decide)]

theorem pathOf_of_spells (h : Spells text path) : pathOf text = .ok path := by
  rw [pathOf_of_not_blank h.not_blank]
  obtain ⟨hfields, rfl⟩ := spells_iff.mp h
  rw [if_neg (by simpa using hfields), List.map_map]
  rfl

theorem pathOf_of_not_spells (hb : ¬ Blank text) (hp : ∀ path, ¬ Spells text path) :
    pathOf text = .error (.emptySegment (String.ofList (trim text))) := by
  rw [pathOf_of_not_blank hb, if_pos]
  by_contra hmem
  exact hp _ (spells_iff.mpr ⟨by simpa using hmem, rfl⟩)

theorem unwrap?_eq_some_iff {mark : Char} :
    unwrap? mark text = some inner ↔ text = mark :: inner ++ [mark] := by
  cases text with
  | nil => simp [unwrap?]
  | cons c r =>
    rw [unwrap?]
    constructor
    · intro h
      split at h
      · rename_i hcr
        obtain ⟨rfl, hlast⟩ := hcr
        obtain ⟨init, rfl⟩ := List.getLast?_eq_some_iff.mp hlast
        simpa using h
      · cases h
    · intro h
      obtain ⟨rfl, rfl⟩ := List.cons.inj h
      simp

theorem unquote_of_denotes (h : Denotes text value) : unquote text = value := by
  rcases h with (rfl | rfl) | ⟨hno, rfl⟩
  · rw [unquote, unwrap?_eq_some_iff.mpr rfl, Option.getD_some]
  · have hdouble : unwrap? '"' ('\'' :: value ++ ['\'']) = none := rfl
    rw [unquote, hdouble, unwrap?_eq_some_iff.mpr rfl, Option.getD_none, Option.getD_some]
  · have hnone (mark : Char) (h : ∀ inner, value ≠ mark :: inner ++ [mark]) :
        unwrap? mark value = none :=
      Option.eq_none_iff_forall_ne_some.mpr fun inner hi => h inner (unwrap?_eq_some_iff.mp hi)
    rw [unquote, hnone _ fun inner hi => hno inner (.inl hi),
      hnone _ fun inner hi => hno inner (.inr hi), Option.getD_none, Option.getD_none]

theorem ofText_of_ordinary (h : Ordinary line) : Line.ofText line = Line.ofAssignment line := by
  obtain ⟨c, r, rfl, hhash, hsemi, hopen⟩ := h
  unfold Line.ofText
  split <;> simp_all

/-- A closed header opens the section that its path names. -/
theorem ofText_header (inside : List Char) : Line.ofText ('[' :: inside ++ [']']) =
    if (trim inside).isEmpty then .ok .leave else (pathOf inside).map .enter := by
  change Line.ofHeader ('[' :: inside ++ [']']) (inside ++ [']']) = _
  simp [Line.ofHeader]

theorem Says.ofText_eq (h : Says line said) : Line.ofText line = .ok said := by
  cases h with
  | skipped h =>
    rcases h with rfl | h | h
    · rfl
    · obtain ⟨r, rfl⟩ := List.head?_eq_some_iff.mp h
      rfl
    · obtain ⟨r, rfl⟩ := List.head?_eq_some_iff.mp h
      rfl
  | leave h hb =>
    rw [h, ofText_header, trim_eq_nil_iff.mpr hb]
    rfl
  | enter h hp =>
    rw [h, ofText_header, if_neg (by simpa using mt trim_eq_nil_iff.mp hp.not_blank),
      pathOf_of_spells hp]
    rfl
  | assign hl h hk hp hv =>
    rw [ofText_of_ordinary hl, Line.ofAssignment, cut?_eq_some_iff.mpr ⟨h, hk⟩]
    dsimp only
    rw [pathOf_of_spells hp, unquote_of_denotes hv]
    obtain ⟨parts, hne, -, -, rfl⟩ := hp
    cases parts with
    | nil => exact absurd rfl hne
    | cons => rfl

theorem Refuses.ofText_eq (h : Refuses line fault) : Line.ofText line = .error fault := by
  cases h with
  | @openHeader inside h he =>
    have hlast : inside.getLast? ≠ some ']' := by
      rw [ne_eq, List.getLast?_eq_some_iff]
      exact not_exists.mpr he
    rw [h]
    change Line.ofHeader ('[' :: inside) inside = _
    unfold Line.ofHeader
    split
    · exact absurd ‹_› hlast
    · rfl
  | header h hb hp =>
    rw [h, ofText_header, if_neg (by simpa using mt trim_eq_nil_iff.mp hb),
      pathOf_of_not_spells hb hp]
    rfl
  | unrecognised hl h =>
    rw [ofText_of_ordinary hl, Line.ofAssignment, cut?_eq_none_iff.mpr h]
  | emptyKey hl h hk hb =>
    rw [ofText_of_ordinary hl, Line.ofAssignment, cut?_eq_some_iff.mpr ⟨h, hk⟩]
    dsimp only
    rw [pathOf_of_blank hb]
  | key hl h hk hb hp =>
    rw [ofText_of_ordinary hl, Line.ofAssignment, cut?_eq_some_iff.mpr ⟨h, hk⟩]
    dsimp only
    rw [pathOf_of_not_spells hb hp]

/-- Reading a line accepts exactly what the grammar allows. -/
theorem ofText_eq_ok_iff : Line.ofText line = .ok said ↔ Says line said :=
  eq_ok_iff_of_or Says.ofText_eq Refuses.ofText_eq (says_or_refuses line)

end ModuleClosure.Parameters
