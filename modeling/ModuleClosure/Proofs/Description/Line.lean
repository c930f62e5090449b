import ModuleClosure.Description.Line
import ModuleClosure.Proofs.Text.Run

/-!
# The grammar of description lines

A trimmed line says a field if it is the text of a key, blanks or none, a colon, and a value of the
kind that the key asks for. `Says` is this grammar; reading a line accepts exactly its lines.
-/
namespace ModuleClosure.Description
open Text

/-- One word: some characters, none of them blank. -/
def IsWord (value : List Char) : Prop := value ≠ [] ∧ ∀ c ∈ value, isBlank c = false

/-- The words for a flag, in lower case. -/
def flagWords : Bool → List String
  | true => ["yes", "true", "on", "1"]
  | false => ["no", "false", "off", "0"]

/-- A line with a text for its key and a value behind the colon. -/
def Keyed (line key value : List Char) : Prop :=
  ∃ gap rest, line = key ++ gap ++ ':' :: rest ∧ (∀ c ∈ gap, isBlank c = true) ∧ value = trim rest

/-- What a trimmed line says. -/
inductive Says (line : List Char) : Field → Prop
  | name {value} (hk : Keyed line Key.module.text.toList value) (hv : IsWord value) :
      Says line (.name (String.ofList value))
  | version {value} (hk : Keyed line Key.version.text.toList value) (hv : IsWord value) :
      Says line (.version (String.ofList value))
  | maintainer {value} (hk : Keyed line Key.maintainer.text.toList value) (hv : value ≠ []) :
      Says line (.maintainer (String.ofList value))
  | whitespaceHook {value flag} (hk : Keyed line Key.whitespaceHook.text.toList value)
      (hv : String.ofList (lowercase value) ∈ flagWords flag) : Says line (.whitespaceHook flag)
  | depends {value entries} (hk : Keyed line Key.depends.text.toList value)
      (hv : Dependency.readList value = .ok entries) : Says line (.depends entries)
  | suggests {value entries} (hk : Keyed line Key.suggests.text.toList value)
      (hv : Dependency.readList value = .ok entries) : Says line (.suggests entries)

/-- The text of a key: a letter, and then letters and hyphens. -/
def IsKeyText (key : List Char) : Prop :=
  (∃ c, key.head? = some c ∧ c.isAlpha = true) ∧ ∀ c ∈ key, isKeyChar c = true

theorem not_isKeyChar_of_isBlank {c : Char} (h : isBlank c = true) : isKeyChar c = false := by
  rw [← Bool.not_eq_true]
  intro hkey
  change ((decide ('A'.val ≤ c.val ∧ c.val ≤ 'Z'.val) ||
    (decide ('a'.val ≤ c.val) && decide (c.val ≤ 'z'.val))) || c == '-') = true at hkey
  simp only [Bool.or_eq_true, Bool.and_eq_true, decide_eq_true_eq, beq_iff_eq,
    UInt32.le_iff_toNat_le] at hkey
  change ((65 ≤ c.toNat ∧ c.toNat ≤ 90) ∨ (97 ≤ c.toNat ∧ c.toNat ≤ 122)) ∨ c = '-' at hkey
  have hrange : 45 ≤ c.toNat ∧ c.toNat ≤ 122 := by
    rcases hkey with hkey | rfl
    · omega
    · decide
  simp only [isBlank, Bool.or_eq_true, Bool.and_eq_true, decide_eq_true_eq, beq_iff_eq] at h
  omega

/-- The text of a key ends where blanks or the colon come. -/
theorem cut_key {key gap : List Char} (rest : List Char) (hkey : ∀ c ∈ key, isKeyChar c = true)
    (hgap : ∀ c ∈ gap, isBlank c = true) :
    (key ++ gap ++ ':' :: rest).takeWhile isKeyChar = key ∧
      (key ++ gap ++ ':' :: rest).dropWhile isKeyChar = gap ++ ':' :: rest := by
  have hstops : Stops isKeyChar (gap ++ ':' :: rest) :=
    .append (fun c hc => not_isKeyChar_of_isBlank (hgap c hc)) (stops_cons.mpr (by decide))
  rw [List.append_assoc]
  exact cut_run hkey hstops

/-- The shape of a line with a key. -/
theorem keyAndValue?_eq_some_iff {line key value : List Char} :
    keyAndValue? line = some (key, value) ↔ IsKeyText key ∧ Keyed line key value := by
  constructor
  · intro h
    unfold keyAndValue? at h
    split at h
    · cases h
    rename_i c r
    split at h
    · rename_i hc
      split at h
      · rename_i rest hrest
        cases h
        have hkey : isKeyChar c = true := by simp [isKeyChar, hc]
        refine ⟨⟨⟨c, by simp [hkey], hc⟩, fun x hx => List.mem_takeWhile_imp hx⟩, ?_⟩
        -- The line is cut where the key ends, and what is left where the blanks end.
        refine ⟨((c :: r).dropWhile isKeyChar).takeWhile isBlank, rest, ?_, ?_, rfl⟩
        · rw [← hrest, trimStart, List.append_assoc, List.takeWhile_append_dropWhile,
            List.takeWhile_append_dropWhile]
        · exact fun x hx => List.mem_takeWhile_imp hx
      · cases h
    · cases h
  · rintro ⟨⟨⟨c, hhead, hc⟩, hkey⟩, gap, rest, rfl, hgap, rfl⟩
    obtain ⟨r, rfl⟩ := List.head?_eq_some_iff.mp hhead
    obtain ⟨htake, hdrop⟩ := cut_key rest hkey hgap
    have htrim : trimStart (gap ++ ':' :: rest) = ':' :: rest := by
      rw [trimStart, List.dropWhile_append_of_pos hgap]
      rfl
    rw [List.cons_append, List.cons_append] at htake hdrop ⊢
    rw [keyAndValue?, if_pos hc, hdrop, htrim, htake]
    rfl

theorem Key.ofText?_eq_some_iff {text : String} {key : Key} :
    Key.ofText? text = some key ↔ key.text = text := by
  constructor
  · intro h
    simpa using List.find?_some h
  · rintro rfl
    cases key <;> rfl

theorem Key.isKeyText (key : Key) : IsKeyText key.text.toList := by
  cases key <;> exact ⟨⟨_, rfl, by decide⟩, List.all_eq_true.mp rfl⟩

/-- A line is read by its key and its value. -/
theorem Field.ofLine_eq_ok_iff {line : List Char} {field : Field} :
    Field.ofLine line = .ok field ↔
      ∃ key value, Keyed line (Key.text key).toList value ∧ Field.ofValue value key = .ok field := by
  constructor
  · intro h
    unfold Field.ofLine at h
    split at h
    · cases h
    rename_i key value hline
    split at h
    · cases h
    rename_i k hk
    obtain ⟨-, hkeyed⟩ := keyAndValue?_eq_some_iff.mp hline
    have hkey : k.text.toList = key := by
      rw [Key.ofText?_eq_some_iff.mp hk, String.toList_ofList]
    exact ⟨k, value, hkey ▸ hkeyed, h⟩
  · rintro ⟨k, value, hkeyed, hv⟩
    have hline := keyAndValue?_eq_some_iff.mpr ⟨k.isKeyText, hkeyed⟩
    have hk : Key.ofText? (String.ofList k.text.toList) = some k := by
      rw [Key.ofText?_eq_some_iff, String.ofList_toList]
    simp only [Field.ofLine, hline, hk, hv]

theorem singleWord_eq_ok_iff {key : Key} {value : List Char} {word : String} :
    singleWord key value = .ok word ↔ IsWord value ∧ String.ofList value = word := by
  unfold singleWord IsWord
  by_cases hv : value = []
  · simp [hv]
  rw [if_neg hv]
  by_cases hb : value.any isBlank = true
  · rw [if_pos hb]
    obtain ⟨c, hc, hblank⟩ := List.any_eq_true.mp hb
    refine ⟨fun h => (nomatch h), fun ⟨⟨_, hall⟩, _⟩ => ?_⟩
    rw [hall c hc] at hblank
    cases hblank
  · rw [if_neg hb]
    have hall : ∀ c ∈ value, isBlank c = false := by simpa using hb
    exact ⟨fun h => ⟨⟨hv, hall⟩, Except.ok.inj h⟩, fun ⟨_, h⟩ => congrArg _ h⟩

theorem flagOf_eq_ok_iff {value : List Char} {flag : Bool} :
    flagOf value = .ok flag ↔ String.ofList (lowercase value) ∈ flagWords flag := by
  have hdisjoint : ∀ word ∈ flagWords true, word ∉ flagWords false := by decide
  change (if String.ofList (lowercase value) ∈ flagWords true then Except.ok true
    else if String.ofList (lowercase value) ∈ flagWords false then Except.ok false
    else Except.error (LineFault.flag (String.ofList (lowercase value)))) = Except.ok flag ↔ _
  generalize String.ofList (lowercase value) = word
  by_cases ht : word ∈ flagWords true
  · have hf := hdisjoint word ht
    cases flag <;> simp [ht, hf]
  · by_cases hf : word ∈ flagWords false <;> cases flag <;> simp [ht, hf]

theorem listOf_eq_ok_iff {value : List Char} {entries : List Dependency} :
    listOf value = .ok entries ↔ Dependency.readList value = .ok entries := by
  rw [listOf]
  cases Dependency.readList value with
  | ok es => exact ⟨fun h => congrArg _ (Except.ok.inj h), fun h => congrArg _ (Except.ok.inj h)⟩
  | error fault => exact ⟨nofun, nofun⟩

private theorem map_eq_ok_iff {ε α β : Type} {x : Except ε α} {f : α → β} {b : β} :
    x.map f = .ok b ↔ ∃ a, x = .ok a ∧ f a = b := by
  cases x <;> simp [Except.map]

/-- Reading a line accepts exactly what the grammar allows. -/
theorem Field.ofLine_eq_ok_iff_says {line : List Char} {field : Field} :
    Field.ofLine line = .ok field ↔ Says line field := by
  rw [Field.ofLine_eq_ok_iff]
  constructor
  · rintro ⟨key, value, hk, hv⟩
    cases key with
    | module =>
      obtain ⟨word, hread, rfl⟩ := map_eq_ok_iff.mp hv
      obtain ⟨hword, rfl⟩ := singleWord_eq_ok_iff.mp hread
      exact .name hk hword
    | version =>
      obtain ⟨word, hread, rfl⟩ := map_eq_ok_iff.mp hv
      obtain ⟨hword, rfl⟩ := singleWord_eq_ok_iff.mp hread
      exact .version hk hword
    | maintainer =>
      rw [Field.ofValue] at hv
      split at hv
      · cases hv
      · cases hv
        exact .maintainer hk ‹_›
    | whitespaceHook =>
      obtain ⟨flag, hf, rfl⟩ := map_eq_ok_iff.mp hv
      exact .whitespaceHook hk (flagOf_eq_ok_iff.mp hf)
    | depends =>
      obtain ⟨entries, he, rfl⟩ := map_eq_ok_iff.mp hv
      exact .depends hk (listOf_eq_ok_iff.mp he)
    | suggests =>
      obtain ⟨entries, he, rfl⟩ := map_eq_ok_iff.mp hv
      exact .suggests hk (listOf_eq_ok_iff.mp he)
  · intro h
    cases h with
    | name hk hv =>
      exact ⟨.module, _, hk, map_eq_ok_iff.mpr ⟨_, singleWord_eq_ok_iff.mpr ⟨hv, rfl⟩, rfl⟩⟩
    | version hk hv =>
      exact ⟨.version, _, hk, map_eq_ok_iff.mpr ⟨_, singleWord_eq_ok_iff.mpr ⟨hv, rfl⟩, rfl⟩⟩
    | maintainer hk hv => exact ⟨.maintainer, _, hk, if_neg hv⟩
    | whitespaceHook hk hv =>
      exact ⟨.whitespaceHook, _, hk, map_eq_ok_iff.mpr ⟨_, flagOf_eq_ok_iff.mpr hv, rfl⟩⟩
    | depends hk hv =>
      exact ⟨.depends, _, hk, map_eq_ok_iff.mpr ⟨_, listOf_eq_ok_iff.mpr hv, rfl⟩⟩
    | suggests hk hv =>
      exact ⟨.suggests, _, hk, map_eq_ok_iff.mpr ⟨_, listOf_eq_ok_iff.mpr hv, rfl⟩⟩

end ModuleClosure.Description
