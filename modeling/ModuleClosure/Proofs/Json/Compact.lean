import Mathlib.Data.Option.Basic
import ModuleClosure.Json.Reader
import ModuleClosure.Json.Writer
import ModuleClosure.Proofs.Text.Run

/-!
# Compact JSON is read back

The compact text of a value is scanned into the tokens of the value, and these are put together to
the value again. Whatever characters a text is made of, escaping loses none of them.
-/
namespace ModuleClosure.Json
open Text

/-- A value in which there are neither numbers nor broken texts. -/
inductive IsPlain : Json → Prop
  | null : IsPlain .null
  | bool (b : Bool) : IsPlain (.bool b)
  | text (s : String) : IsPlain (.text s)
  | array {items : List Json} (h : ∀ j ∈ items, IsPlain j) : IsPlain (.array items)
  | object {members : List (String × Json)} (h : ∀ m ∈ members, IsPlain m.2) :
      IsPlain (.object members)

mutual

/-- The tokens that a value is written with. -/
def tokens : Json → List Token
  | array items => [.openArray] ++ itemTokens items ++ [.closeArray]
  | object members => [.openObject] ++ memberTokens members ++ [.closeObject]
  | text s => [.text (some s)]
  | j => [.scalar j]

def itemTokens : List Json → List Token
  | [] => []
  | [j] => tokens j
  | j :: js => tokens j ++ [.comma] ++ itemTokens js

def memberTokens : List (String × Json) → List Token
  | [] => []
  | [(name, j)] => [.text (some name), .colon] ++ tokens j
  | (name, j) :: ms => [.text (some name), .colon] ++ tokens j ++ [.comma] ++ memberTokens ms

end

section Scanning

variable {s s' : Scan} {c : Char} {t : Token} {ts : List Token} {j : Json} {r word : List Char}

theorem scan_of_step (h : s.step c = some (ts, s')) (r : List Char) :
    scan s (c :: r) = (scan s' r).map (ts ++ ·) := by
  rw [scan, h]
  rfl

theorem scan_of_silent (h : s.step c = some ([], s')) (r : List Char) :
    scan s (c :: r) = scan s' r := by
  rw [scan_of_step h]
  exact Option.map_id'

theorem step_between_of_isWordChar (h : isWordChar c = true) :
    Scan.between.step c = some ([], .word [c]) := by
  have hne (d : Char) (hd : isWordChar d = false) : c ≠ d := by
    rintro rfl
    cases h.symm.trans hd
  have hgap : isGap c = false := by
    simp [isGap, hne ' ' rfl, hne '\t' rfl, hne '\n' rfl, hne '\r' rfl]
  simp [Scan.step, beginToken, hgap, hne '"' rfl, h]

theorem scan_word_append (h : ∀ c ∈ word, isWordChar c = true) (letters : List Char) :
    scan (.word letters) (word ++ r) = scan (.word (word.reverse ++ letters)) r := by
  induction word generalizing letters with
  | nil => rfl
  | cons c word ih =>
    obtain ⟨hc, hword⟩ := List.forall_mem_cons.mp h
    have hstep : (Scan.word letters).step c = some ([], .word (c :: letters)) := by
      rw [Scan.step, if_pos hc]
    rw [List.cons_append, scan_of_silent hstep, ih hword]
    simp

/-- A word ends where another character follows. -/
theorem scan_word (hne : word ≠ []) (h : ∀ c ∈ word, isWordChar c = true)
    (hread : word? word = some j) (hr : Stops isWordChar r) :
    scan .between (word ++ r) = (scan .between r).map ([.scalar j] ++ ·) := by
  obtain ⟨c, word, rfl⟩ := List.exists_cons_of_ne_nil hne
  obtain ⟨hc, hword⟩ := List.forall_mem_cons.mp h
  have hread' : word? (word.reverse ++ [c]).reverse = some j := by simpa using hread
  rw [List.cons_append, scan_of_silent (step_between_of_isWordChar hc), scan_word_append hword]
  cases r with
  | nil => simp [scan, hread]
  | cons d r =>
    rw [scan, scan, Scan.step, Scan.step, if_neg (by simp [stops_cons.mp hr]), hread']
    cases beginToken d with
    | none => rfl
    | some next => cases h : scan next.2 r <;> simp [h]

/-- How a character of a text is read. -/
def pieceOf (c : Char) : Piece :=
  if c.toNat < 0x20 ∧ c ∉ ['\n', '\r', '\t', '\x08', '\x0c'] then .unit c.toNat else .char c

theorem hexValue?_hexDigit : ∀ n < 16, hexValue? (hexDigit n) = some n := by decide

/-- Four hexadecimal digits give a unit. -/
theorem scan_unit (pieces : List Piece) {n : Nat} (h : n < 0x20) (r : List Char) :
    scan (.text pieces) (['\\', 'u', '0', '0', hexDigit (n / 16), hexDigit (n % 16)] ++ r) =
      scan (.text (.unit n :: pieces)) r := by
  have hhigh := hexValue?_hexDigit (n / 16) (by omega)
  have hlow := hexValue?_hexDigit (n % 16) (by omega)
  have hvalue : (0 * 16 + n / 16) * 16 + n % 16 = n := by omega
  have hdigit (missing value d : Nat) {c : Char} (hd : hexValue? c = some d) :
      (Scan.unit pieces (missing + 2) value).step c =
        some ([], .unit pieces (missing + 1) (value * 16 + d)) := by
    simp [Scan.step, hd]
  have hlast (value d : Nat) {c : Char} (hd : hexValue? c = some d) :
      (Scan.unit pieces 1 value).step c = some ([], .text (.unit (value * 16 + d) :: pieces)) := by
    simp [Scan.step, hd]
  calc scan (.text pieces) (['\\', 'u', '0', '0', hexDigit (n / 16), hexDigit (n % 16)] ++ r)
    _ = scan (.unit pieces 4 0) ('0' :: '0' :: hexDigit (n / 16) :: hexDigit (n % 16) :: r) := by
      rw [List.cons_append, scan_of_silent rfl, List.cons_append, scan_of_silent rfl]
      rfl
    _ = scan (.unit pieces 2 0) (hexDigit (n / 16) :: hexDigit (n % 16) :: r) := by
      rw [scan_of_silent (hdigit 2 0 0 rfl), scan_of_silent (hdigit 1 0 0 rfl)]
    _ = scan (.text (.unit n :: pieces)) r := by
      rw [scan_of_silent (hdigit 0 0 _ hhigh), scan_of_silent (hlast _ _ hlow), hvalue]

theorem scan_writeChar (c : Char) (pieces : List Piece) (r : List Char) :
    scan (.text pieces) (writeChar c ++ r) = scan (.text (pieceOf c :: pieces)) r := by
  have hescape (letter : Char) (hu : letter ≠ 'u') (hletter : escapes.lookup letter = some c) :
      scan (.text pieces) (['\\', letter] ++ r) = scan (.text (.char c :: pieces)) r := by
    have hstep : (Scan.escape pieces).step letter = some ([], .text (.char c :: pieces)) := by
      simp [Scan.step, hu, hletter]
    rw [List.cons_append, scan_of_silent rfl, List.cons_append, scan_of_silent hstep]
    rfl
  have heq {n : Nat} (hc : c.toNat = n) : c = Char.ofNat n := by rw [← hc, Char.ofNat_toNat]
  rw [writeChar]
  split_ifs with hquote hslash hfeed hreturn htab hback hform hcontrol
  · subst hquote
    exact hescape '"' (by decide) rfl
  · subst hslash
    exact hescape '\\' (by decide) rfl
  · subst hfeed
    exact hescape 'n' (by decide) rfl
  · subst hreturn
    exact hescape 'r' (by decide) rfl
  · subst htab
    exact hescape 't' (by decide) rfl
  · obtain rfl := heq hback
    exact hescape 'b' (by decide) rfl
  · obtain rfl := heq hform
    exact hescape 'f' (by decide) rfl
  · have hpiece : pieceOf c = .unit c.toNat := by
      refine if_pos ⟨hcontrol, ?_⟩
      have hother (d : Char) (hd : c.toNat ≠ d.toNat) : c ≠ d := fun h => hd (congrArg _ h)
      simp [hfeed, hreturn, htab, hother '\x08' hback, hother '\x0c' hform]
    rw [hpiece]
    exact scan_unit pieces hcontrol r
  · have hpiece : pieceOf c = .char c := if_neg fun h => hcontrol h.1
    have hstep : (Scan.text pieces).step c = some ([], .text (.char c :: pieces)) := by
      simp [Scan.step, hquote, hslash, hcontrol]
    rw [hpiece, List.cons_append, scan_of_silent hstep]
    rfl

theorem scan_flatMap_writeChar (cs : List Char) (pieces : List Piece) (r : List Char) :
    scan (.text pieces) (cs.flatMap writeChar ++ r) =
      scan (.text ((cs.map pieceOf).reverse ++ pieces)) r := by
  induction cs generalizing pieces with
  | nil => rfl
  | cons c cs ih =>
    rw [List.flatMap_cons, List.append_assoc, scan_writeChar, ih]
    simp

/-- A unit that is no half of a pair is a character of its own. -/
theorem assemble_unit {n : Nat} (hhigh : isHighUnit n = false) (hlow : isLowUnit n = false)
    (pieces : List Piece) :
    assemble (.unit n :: pieces) = (assemble pieces).map (Char.ofNat n :: ·) := by
  cases pieces with
  | nil => simp [assemble, hhigh, hlow]
  | cons piece pieces =>
    cases piece with
    | char c => simp [assemble, hhigh, hlow]
    | unit l => rw [assemble, if_neg (by simp [hhigh]), if_neg (by simp [hlow])]

theorem assemble_map_pieceOf (cs : List Char) : assemble (cs.map pieceOf) = some cs := by
  induction cs with
  | nil => rfl
  | cons c cs ih =>
    rw [List.map_cons]
    by_cases hc : c.toNat < 0x20 ∧ c ∉ ['\n', '\r', '\t', '\x08', '\x0c']
    · have hhigh : isHighUnit c.toNat = false := by
        simp only [isHighUnit, Bool.and_eq_false_imp, decide_eq_true_eq, decide_eq_false_iff_not]
        omega
      have hlow : isLowUnit c.toNat = false := by
        simp only [isLowUnit, Bool.and_eq_false_imp, decide_eq_true_eq, decide_eq_false_iff_not]
        omega
      rw [pieceOf, if_pos hc, assemble_unit hhigh hlow, ih, Option.map_some, Char.ofNat_toNat]
    · rw [pieceOf, if_neg hc, assemble, ih]
      rfl

theorem scan_writeText (s : String) (r : List Char) :
    scan .between (writeText s ++ r) = (scan .between r).map ([.text (some s)] ++ ·) := by
  have hclose (pieces : List Piece) : (Scan.text pieces).step '"' =
      some ([.text ((assemble pieces.reverse).map String.ofList)], .between) := rfl
  have hopen : Scan.between.step '"' = some ([], .text []) := rfl
  rw [writeText, List.append_assoc, List.append_assoc, List.singleton_append,
    scan_of_silent hopen, scan_flatMap_writeChar, List.singleton_append,
    scan_of_step (hclose _), List.append_nil, List.reverse_reverse, assemble_map_pieceOf]
  simp

/-- A text, behind which no word goes on, is scanned into tokens. -/
def ScansTo (written : List Char) (ts : List Token) : Prop :=
  ∀ r, Stops isWordChar r → scan .between (written ++ r) = (scan .between r).map (ts ++ ·)

variable {written next : List Char} {us : List Token}

theorem scansTo_nil : ScansTo [] [] := fun _ _ => Option.map_id'.symm

theorem scansTo_writeText (s : String) : ScansTo (writeText s) [.text (some s)] :=
  fun r _ => scan_writeText s r

theorem ScansTo.cons_mark (hmark : Scan.between.step c = some ([t], .between))
    (h : ScansTo next us) : ScansTo ([c] ++ next) ([t] ++ us) := by
  intro r hr
  rw [List.append_assoc, List.singleton_append, scan_of_step hmark, h r hr, Option.map_map]
  rfl

/-- A mark ends a word. -/
theorem ScansTo.append_mark (h : ScansTo written ts)
    (hmark : Scan.between.step c = some ([t], .between)) (hc : isWordChar c = false)
    (hnext : ScansTo next us) : ScansTo (written ++ [c] ++ next) (ts ++ [t] ++ us) := by
  intro r hr
  have hbehind : Stops isWordChar ([c] ++ next ++ r) := stops_cons.mpr hc
  have hrest := hnext.cons_mark hmark r hr
  rw [List.append_assoc, List.append_assoc, ← List.append_assoc [c], h _ hbehind, hrest,
    Option.map_map]
  exact congrArg (Option.map · _) (funext fun _ => by simp)

theorem ScansTo.between_marks {d : Char} {u : Token} (h : ScansTo written ts)
    (hopen : Scan.between.step c = some ([t], .between))
    (hclose : Scan.between.step d = some ([u], .between)) (hd : isWordChar d = false) :
    ScansTo ([c] ++ written ++ [d]) ([t] ++ ts ++ [u]) := by
  have hrest := (h.append_mark hclose hd scansTo_nil).cons_mark hopen
  simpa using hrest

theorem scansTo_writeScalar (hne : writeScalar j ≠ [])
    (h : (writeScalar j).all isWordChar = true) (hread : word? (writeScalar j) = some j) :
    ScansTo (writeScalar j) [.scalar j] :=
  fun _ hr => scan_word hne (List.all_eq_true.mp h) hread hr

variable {items : List Json} {members : List (String × Json)}

theorem scansTo_writeItems (h : ∀ j ∈ items, ScansTo (writeCompact j) (tokens j)) :
    ScansTo (writeItems items) (itemTokens items) := by
  induction items with
  | nil => exact scansTo_nil
  | cons j js ih =>
    obtain ⟨hj, hjs⟩ := List.forall_mem_cons.mp h
    cases js with
    | nil => exact hj
    | cons next js => exact hj.append_mark rfl rfl (ih hjs)

theorem scansTo_writeMembers (h : ∀ m ∈ members, ScansTo (writeCompact m.2) (tokens m.2)) :
    ScansTo (writeMembers members) (memberTokens members) := by
  induction members with
  | nil => exact scansTo_nil
  | cons m ms ih =>
    obtain ⟨name, j⟩ := m
    obtain ⟨hj, hms⟩ := List.forall_mem_cons.mp h
    have hmember : ScansTo (writeText name ++ [':'] ++ writeCompact j)
        ([.text (some name), .colon] ++ tokens j) :=
      (scansTo_writeText name).append_mark rfl rfl hj
    cases ms with
    | nil => exact hmember
    | cons next ms => exact hmember.append_mark rfl rfl (ih hms)

/-- A value is scanned into its tokens. -/
theorem scansTo_writeCompact (h : IsPlain j) : ScansTo (writeCompact j) (tokens j) := by
  induction h with
  | null => exact scansTo_writeScalar (j := .null) (by decide) rfl rfl
  | bool b =>
    cases b with
    | false => exact scansTo_writeScalar (j := .bool false) (by decide) rfl rfl
    | true => exact scansTo_writeScalar (j := .bool true) (by decide) rfl rfl
  | text s => exact scansTo_writeText s
  | array _ ih => exact (scansTo_writeItems ih).between_marks rfl rfl rfl
  | object _ ih => exact (scansTo_writeMembers ih).between_marks rfl rfl rfl

end Scanning

section Building

variable {b b' : Build} {t : Token} {j : Json} {items : List Json}
  {members : List (String × Json)}

theorem build_of_step (h : b.step t = some b') (ts : List Token) :
    build b (t :: ts) = build b' ts := by
  rw [build, h]
  rfl

/-- The tokens of a value build it wherever a value may stand. -/
def Builds (j : Json) : Prop := ∀ first frames ts,
  build (.building (.value first) frames) (tokens j ++ ts) = build (give j frames) ts

/-- Items are kept backwards until the array is closed. -/
theorem build_itemTokens (h : ∀ j ∈ items, Builds j) (hne : items ≠ []) (first : Bool)
    (done : List Json) (frames : List Frame) (ts : List Token) :
    build (.building (.value first) (.array done :: frames))
        (itemTokens items ++ [.closeArray] ++ ts) =
      build (give (.array (done.reverse ++ items)) frames) ts := by
  induction items generalizing first done with
  | nil => exact absurd rfl hne
  | cons j js ih =>
    obtain ⟨hj, hjs⟩ := List.forall_mem_cons.mp h
    cases js with
    | nil =>
      have hclose : (Build.building .behind (.array (j :: done) :: frames)).step .closeArray =
          some (give (.array (done.reverse ++ [j])) frames) := by
        simp [Build.step, closeArray?]
      rw [itemTokens, List.append_assoc, hj]
      exact build_of_step hclose ts
    | cons next js =>
      have htokens : itemTokens (j :: next :: js) ++ [.closeArray] ++ ts =
          tokens j ++ .comma :: (itemTokens (next :: js) ++ [.closeArray] ++ ts) := by
        simp [itemTokens]
      have hcomma : (Build.building .behind (.array (j :: done) :: frames)).step .comma =
          some (.building (.value false) (.array (j :: done) :: frames)) := rfl
      rw [htokens, hj, give, build_of_step hcomma, ih hjs (List.cons_ne_nil next js)]
      simp

theorem build_memberTokens (h : ∀ m ∈ members, Builds m.2) (hne : members ≠ []) (first : Bool)
    (done : List (String × Json)) (frames : List Frame) (ts : List Token) :
    build (.building (.name first) (.object done false none :: frames))
        (memberTokens members ++ [.closeObject] ++ ts) =
      build (give (.object (done.reverse ++ members)) frames) ts := by
  induction members generalizing first done with
  | nil => exact absurd rfl hne
  | cons m ms ih =>
    obtain ⟨name, j⟩ := m
    obtain ⟨hj, hms⟩ := List.forall_mem_cons.mp h
    have hname : (Build.building (.name first) (.object done false none :: frames)).step
        (.text (some name)) =
          some (.building .colon (.object done false (some name) :: frames)) := by
      cases first <;> rfl
    have hcolon : (Build.building .colon (.object done false (some name) :: frames)).step .colon =
        some (.building (.value false) (.object done false (some name) :: frames)) := rfl
    have hmember (us : List Token) : build
        (.building (.name first) (.object done false none :: frames))
          (.text (some name) :: .colon :: (tokens j ++ us)) =
        build (.building .behind (.object ((name, j) :: done) false none :: frames)) us := by
      rw [build_of_step hname, build_of_step hcolon, hj, give]
    cases ms with
    | nil =>
      have hclose : (Build.building .behind
          (.object ((name, j) :: done) false none :: frames)).step .closeObject =
            some (give (.object (done.reverse ++ [(name, j)])) frames) := by
        simp [Build.step, closeObject?]
      have htokens : memberTokens [(name, j)] ++ [.closeObject] ++ ts =
          .text (some name) :: .colon :: (tokens j ++ .closeObject :: ts) := by
        simp [memberTokens]
      rw [htokens, hmember]
      exact build_of_step hclose ts
    | cons next ms =>
      have htokens : memberTokens ((name, j) :: next :: ms) ++ [.closeObject] ++ ts =
          .text (some name) :: .colon ::
            (tokens j ++ .comma :: (memberTokens (next :: ms) ++ [.closeObject] ++ ts)) := by
        simp [memberTokens]
      have hcomma : (Build.building .behind
          (.object ((name, j) :: done) false none :: frames)).step .comma =
            some (.building (.name false) (.object ((name, j) :: done) false none :: frames)) := rfl
      rw [htokens, hmember, build_of_step hcomma, ih hms (List.cons_ne_nil next ms)]
      simp

theorem builds_of_scalar (h : tokens j = [.scalar j]) : Builds j := by
  intro first frames ts
  rw [h]
  exact build_of_step rfl ts

/-- The tokens of a value are put together to the value. -/
theorem IsPlain.builds (h : IsPlain j) : Builds j := by
  induction h with
  | null => exact builds_of_scalar rfl
  | bool b => exact builds_of_scalar rfl
  | text s => exact fun first frames ts => build_of_step rfl ts
  | @array items _ ih =>
    intro first frames ts
    rw [tokens, List.append_assoc, List.append_assoc, List.singleton_append, build_of_step rfl,
      ← List.append_assoc]
    by_cases hne : items = []
    · subst hne
      exact build_of_step rfl ts
    · exact build_itemTokens ih hne true [] frames ts
  | @object members _ ih =>
    intro first frames ts
    rw [tokens, List.append_assoc, List.append_assoc, List.singleton_append, build_of_step rfl,
      ← List.append_assoc]
    by_cases hne : members = []
    · subst hne
      exact build_of_step rfl ts
    · exact build_memberTokens ih hne true [] frames ts

end Building

/-- The compact text of a value is read as the value. -/
theorem read?_compact {j : Json} (h : IsPlain j) : read? j.compact = some j := by
  have hscan : scan .between (writeCompact j) = some (tokens j) := by
    have hwhole := scansTo_writeCompact h [] stops_nil
    rw [List.append_nil] at hwhole
    rw [hwhole, scan, Option.map_some, List.append_nil]
  have hbuild := h.builds false [] []
  rw [List.append_nil] at hbuild
  rw [read?, compact, String.toList_ofList, hscan, Option.bind_some, hbuild]
  rfl

end ModuleClosure.Json
