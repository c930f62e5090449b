import ModuleClosure.Proofs.Parameters.File
import ModuleClosure.Proofs.Text.Lines

/-!
# Parameter files one behind the other

An empty header between two files separates them: the sections that the first opens are left, so
that the second is read as it is alone, and its parameters override those of the first. A line that
is refused is refused with the same words, and its number counts the lines before it.
-/
namespace ModuleClosure.Parameters
open Text

/-- Lines that leave nothing of what stands before them to what stands behind them. -/
def Separates (closing : List Line) : Prop := ∀ base said later,
  assignments base (said ++ closing ++ later) = assignments base said ++ assignments base later

variable {base : Path} {said later closing : List Line}

/-- Behind an empty header, no section is open that was opened before it. -/
theorem openAfter_leave : openAfter (said ++ .leave :: later) = openAfter later := by
  -- From the end, as what is open behind a line depends on the lines before it.
  induction later using List.reverseRec with
  | nil =>
    rw [openAfter_concat]
    rfl
  | append_singleton later line ih =>
    rw [← List.cons_append, ← List.append_assoc, openAfter_concat, openAfter_concat, ih]

theorem assignments_leave : assignments base (said ++ .leave :: later) =
    assignments base said ++ assignments base later := by
  induction later using List.reverseRec with
  | nil =>
    rw [assignments_concat]
    rfl
  | append_singleton later line ih =>
    rw [← List.cons_append, ← List.append_assoc, assignments_concat, assignments_concat, ih,
      openAfter_leave, List.append_assoc]

theorem separates_leave : Separates [.leave] := by
  intro base said later
  rw [List.append_assoc, List.singleton_append, assignments_leave]

theorem Separates.cons_skipped (h : Separates closing) : Separates (.skipped :: closing) := by
  intro base said later
  have hskipped : assignments base (said ++ [.skipped]) = assignments base said := by
    rw [assignments_concat]
    exact List.append_nil _
  rw [List.append_cons, h, hskipped]

/-- What stands between two files: an empty header, and an empty line before it if the first file
is empty or its last line is ended. -/
theorem exists_divider (s : List Char) : ∃ divider closing, SaysAll divider closing ∧
    Separates closing ∧ ∀ t, (lines (s ++ "\n[]\n".toList ++ t)).map trim =
      (lines s ++ divider ++ lines t).map trim := by
  obtain ⟨gap, hgap, hlines⟩ := exists_gap s
  have hleave : SaysAll [['[', ']']] [.leave] := .cons (ofText_eq_ok_iff.mp (by decide)) .nil
  have hdivider (t : List Char) : (lines (s ++ "\n[]\n".toList ++ t)).map trim =
      (lines s ++ (gap ++ [['[', ']']]) ++ lines t).map trim := by
    have htext : s ++ "\n[]\n".toList ++ t = s ++ '\n' :: ('[' :: ']' :: '\n' :: t) := by
      simp
    have hheader : lines ('[' :: ']' :: '\n' :: t) = ['[', ']'] :: lines t :=
      lines_append_cons (show '\n' ∉ ['[', ']'] by decide) t
    rw [htext, hlines, hheader]
    simp
  rcases hgap with rfl | rfl
  · exact ⟨_, _, hleave, separates_leave, hdivider⟩
  · exact ⟨_, _, .cons (.skipped (.inl rfl)) hleave, separates_leave.cons_skipped, hdivider⟩

/-- Two files with an empty header between them are read as their lines one behind the other. -/
theorem exists_readUnder_eq {base : String} {path : Path} (hbase : SpellsBase base.toList path)
    (first : String) : ∃ divider closing, SaysAll divider closing ∧ Separates closing ∧
      (lines (first ++ "\n[]\n").toList).length =
        (lines first.toList).length + divider.length ∧
      ∀ second, readUnder base (first ++ "\n[]\n" ++ second) =
        readLines path 1 {} (lines first.toList ++ divider ++ lines second.toList) := by
  obtain ⟨divider, closing, hdivider, hclosing, hlines⟩ := exists_divider first.toList
  refine ⟨divider, closing, hdivider, hclosing, ?_, fun second => ?_⟩
  · have hcount := congrArg List.length (hlines [])
    rw [String.toList_append]
    simpa [lines] using hcount
  · rw [readUnder_eq hbase, String.toList_append, String.toList_append]
    exact readLines_congr (hlines second.toList)

/-- Two files with an empty header between them are read one after the other: the parameters of the
second override those of the first. What is wrong in the first is wrong in both, and what is wrong
in the second is wrong as many lines later as stand before it. -/
theorem readUnder_reset (base first second : String) :
    (∀ p q, (readUnder base first).1 = .ok p → (readUnder base second).1 = .ok q →
      (readUnder base (first ++ "\n[]\n" ++ second)).1 = .ok (p.override q) ∧
      ∀ key, (p.override q).get? key = (q.get? key).or (p.get? key)) ∧
    (∀ f, (readUnder base first).1 = .error f →
      (readUnder base (first ++ "\n[]\n" ++ second)).1 = .error f) ∧
    ∀ p f, (readUnder base first).1 = .ok p → (readUnder base second).1 = .error f →
      ∃ number fault, f = .parameterLine number fault ∧
        (readUnder base (first ++ "\n[]\n" ++ second)).1 =
          .error (.parameterLine (number + (lines (first ++ "\n[]\n").toList).length) fault) := by
  rcases spellsBase_or_refused base with ⟨path, hbase⟩ | ⟨fault, hrefused⟩
  swap
  -- What is no base refuses every file before its first line.
  · simp only [hrefused]
    exact ⟨by simp, fun f hf => hf, by simp⟩
  obtain ⟨divider, closing, hdivider, hclosing, hcount, hread⟩ := exists_readUnder_eq hbase first
  rw [hread, hcount]
  rcases saysAll_or_refuses (lines first.toList) with
    ⟨said, hsaid⟩ | ⟨before, line, after, said, fault, hfile, hbefore, hr⟩
  swap
  · rw [readUnder_of_refuses hbase hfile hbefore hr, hfile, List.append_assoc, List.append_assoc,
      List.cons_append, readLines_of_refuses hbefore hr, Nat.add_comm]
    exact ⟨by simp, fun f hf => hf, by simp⟩
  have hfirst : SaysAll (lines first.toList ++ divider) (said ++ closing) :=
    List.rel_append hsaid hdivider
  rw [readUnder_of_saysAll hbase hsaid]
  rcases saysAll_or_refuses (lines second.toList) with
    ⟨later, hlater⟩ | ⟨before, line, after, later, fault, hfile, hbefore, hr⟩
  · rw [readUnder_of_saysAll hbase hlater, readLines_of_saysAll (List.rel_append hfirst hlater),
      hclosing, ofList_append]
    refine ⟨fun p q hp hq => ?_, by simp, by simp⟩
    obtain rfl := Except.ok.inj hp
    obtain rfl := Except.ok.inj hq
    exact ⟨rfl, get?_override _ _⟩
  · rw [readUnder_of_refuses hbase hfile hbefore hr, hfile, ← List.append_assoc,
      readLines_of_refuses (List.rel_append hfirst hbefore) hr]
    refine ⟨by simp, by simp, fun p f _ hf => ⟨_, _, (Except.error.inj hf).symm, ?_⟩⟩
    have hnumber : 1 + (lines first.toList ++ divider ++ before).length =
        before.length + 1 + ((lines first.toList).length + divider.length) := by
      simp only [List.length_append]
      omega
    rw [hnumber]

/-- A file that ends within a section and within a line. -/
def unended : String := "x = 1\r\n[g]\ny = 2\r"

theorem readUnder_reset_unended :
    (readUnder "p" unended).1 = .ok (ofList [("p.x", "1"), ("p.g.y", "2")]) ∧
    (readUnder "p" "y = 3\nx = 4").1 = .ok (ofList [("p.y", "3"), ("p.x", "4")]) ∧
    (readUnder "p" (unended ++ "\n[]\n" ++ "y = 3\nx = 4")).1 =
      .ok ((ofList [("p.x", "1"), ("p.g.y", "2")]).override
        (ofList [("p.y", "3"), ("p.x", "4")])) ∧
    (readUnder "p" "\n[g\n").1 = .error (.parameterLine 2 (.openHeader "[g")) ∧
    (readUnder "p" ("\n[g\n" ++ "\n[]\n" ++ unended)).1 =
      .error (.parameterLine 2 (.openHeader "[g")) ∧
    (readUnder "p" "y = 3\n= 4").1 = .error (.parameterLine 2 .emptyKey) ∧
    (readUnder "p" (unended ++ "\n[]\n" ++ "y = 3\n= 4")).1 =
      .error (.parameterLine 6 .emptyKey) := by
  have hfirst : (readUnder "p" unended).1 = .ok (ofList [("p.x", "1"), ("p.g.y", "2")]) := by
    decide +kernel
  have hsecond : (readUnder "p" "y = 3\nx = 4").1 =
      .ok (ofList [("p.y", "3"), ("p.x", "4")]) := by
    decide +kernel
  have hopen : (readUnder "p" "\n[g\n").1 = .error (.parameterLine 2 (.openHeader "[g")) := by
    decide +kernel
  have hempty : (readUnder "p" "y = 3\n= 4").1 = .error (.parameterLine 2 .emptyKey) := by
    decide +kernel
  have hboth := (readUnder_reset "p" unended "y = 3\nx = 4").1 _ _ hfirst hsecond
  have hearly := (readUnder_reset "p" "\n[g\n" unended).2.1 _ hopen
  obtain ⟨number, fault, hf, hlate⟩ :=
    (readUnder_reset "p" unended "y = 3\n= 4").2.2 _ _ hfirst hempty
  obtain ⟨rfl, rfl⟩ := Failure.parameterLine.inj hf
  exact ⟨hfirst, hsecond, hboth.1, hopen, hearly, hempty, hlate.trans (by decide +kernel)⟩

end ModuleClosure.Parameters
