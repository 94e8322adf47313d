import Assay.Location
import Assay.Proofs.Difference.Blocks
import Assay.Proofs.Lines.Split

/-!
# Line numbers

Lines are counted twice: by the offsets at which they start, which is how a location counts, and by
their place in the list of lines, which is how a report of differences counts. Both counts are the
same (`lineStarts_count_lines`). The list of starts is that of the lines, with the end of the text
behind them if nothing stands behind the last ending (`lineStarts_eq`), and as many lines start up
to an offset as there are up to the line that contains it (`exists_unique_contains`).
-/

namespace Assay

/-- Whether the end of a text starts a line: the text is empty, or an ending is the last of it. -/
def EndsFresh (t : Text) : Prop := t = [] ∨ t.getLast?.any isLineBreak = true

instance (t : Text) : Decidable (EndsFresh t) := inferInstanceAs (Decidable (_ ∨ _))

namespace Line

variable {line : Line} {lines : List Line} {t u : Text} {offset i : Nat}

/-! ## Where the lines of a list start -/

/-- The offset at which the line with an index starts, where lines are put together: the sum of the
lengths of the lines before it. -/
def startOf : List Line → Nat → Nat
  | _, 0 => 0
  | [], _ + 1 => 0
  | line :: lines, i + 1 => line.toText.length + startOf lines i

/-- The line with an index contains an offset. -/
def Contains (lines : List Line) (i offset : Nat) : Prop :=
  ∃ line, lines[i]? = some line ∧ startOf lines i ≤ offset ∧
    offset < startOf lines i + line.toText.length

@[simp] theorem startOf_zero : startOf lines 0 = 0 := by
  cases lines <;> rfl

@[simp] theorem startOf_cons_succ :
    startOf (line :: lines) (i + 1) = line.toText.length + startOf lines i := rfl

theorem contains_cons_zero :
    Contains (line :: lines) 0 offset ↔ offset < line.toText.length := by
  simp [Contains]

theorem contains_cons_succ : Contains (line :: lines) (i + 1) offset ↔
    line.toText.length ≤ offset ∧ Contains lines i (offset - line.toText.length) := by
  simp only [Contains, List.getElem?_cons_succ, startOf_cons_succ]
  constructor
  · rintro ⟨l, hl, hle, hlt⟩
    exact ⟨by omega, l, hl, by omega, by omega⟩
  · rintro ⟨hlen, l, hl, hle, hlt⟩
    exact ⟨l, hl, by omega, by omega⟩

/-- The starts of lines with one more in front. -/
theorem map_startOf_range_cons (offset : Nat) (line : Line) (lines : List Line) :
    (List.range (line :: lines).length).map (offset + startOf (line :: lines) ·)
      = offset :: (List.range lines.length).map
        (offset + line.toText.length + startOf lines ·) := by
  rw [List.length_cons, List.range_succ_eq_map, List.map_cons, List.map_map]
  simp [Function.comp_def, Nat.add_assoc]

/-! ## The scan for starts -/

theorem startsAfter_append_of_unbroken (h : Unbroken t) (offset : Nat) (u : Text) :
    startsAfter offset (t ++ u) = startsAfter (offset + t.length) u := by
  induction t generalizing offset with
  | nil => rfl
  | cons c t ih =>
    obtain ⟨hc, ht⟩ := unbroken_cons.mp h
    obtain ⟨hcr, hlf⟩ := isLineBreak_eq_false.mp hc
    rw [List.cons_append, startsAfter, ih ht, List.length_cons, Nat.add_assoc, Nat.add_comm 1]
    · rintro _ rfl
      exact absurd rfl hcr
    · rintro rfl
      exact absurd rfl hcr
    · rintro rfl
      exact absurd rfl hlf

/-- **Behind a whole line, a line starts**, and the scan goes on from there. -/
theorem startsAfter_toText_append (hunbroken : Unbroken line.text) (hended : line.ending ≠ .none)
    (hcr : line.ending = .cr → u.head? ≠ some '\n') (offset : Nat) :
    startsAfter offset (line.toText ++ u)
      = (offset + line.toText.length) :: startsAfter (offset + line.toText.length) u := by
  obtain ⟨t, ending⟩ := line
  have hending (n : Nat) : startsAfter n (ending.toText ++ u)
      = (n + ending.toText.length) :: startsAfter (n + ending.toText.length) u := by
    cases ending with
    | crlf => rfl
    | lf => rfl
    | cr =>
      show startsAfter n ('\r' :: u) = _
      rw [startsAfter]
      · rfl
      · rintro rest rfl
        exact hcr rfl rfl
    | none => exact absurd rfl hended
  rw [toText, List.append_assoc, startsAfter_append_of_unbroken hunbroken, hending,
    List.length_append, Nat.add_assoc]

theorem not_endsFresh_of_unbroken (h : Unbroken t) (hne : t ≠ []) : ¬ EndsFresh t := by
  rintro (hnil | hlast)
  · exact hne hnil
  · obtain ⟨c, hc, hbreak⟩ := (Option.any_eq_true _ _).mp hlast
    rw [h c (List.mem_of_getLast? hc)] at hbreak
    cases hbreak

/-- Behind a whole line, the rest of a text decides how it ends. -/
theorem endsFresh_toText_append (hended : line.ending ≠ .none) (u : Text) :
    EndsFresh (line.toText ++ u) ↔ EndsFresh u := by
  by_cases hu : u = []
  · subst hu
    refine iff_of_true (Or.inr ?_) (Or.inl rfl)
    obtain ⟨t, ending⟩ := line
    cases ending with
    | crlf | lf | cr => simp [toText, LineEnding.toText, isLineBreak]
    | none => exact absurd rfl hended
  · simp [EndsFresh, hu, List.getLast?_append_of_ne_nil _ hu]

/-- **Lines start where the scan finds them to start.** -/
theorem cons_startsAfter_unsplit (h : AreLines lines) (offset : Nat) :
    offset :: startsAfter offset (unsplit lines)
      = (List.range lines.length).map (offset + startOf lines ·)
        ++ if EndsFresh (unsplit lines) then [offset + (unsplit lines).length] else [] := by
  induction lines generalizing offset with
  | nil => rfl
  | cons line lines ih =>
    obtain ⟨hunbroken, hlast, hcr, hrest⟩ := areLines_cons.mp h
    rw [map_startOf_range_cons, unsplit_cons]
    by_cases hnone : line.ending = .none
    · obtain ⟨text, ending⟩ := line
      obtain rfl : ending = .none := hnone
      obtain ⟨hne, rfl⟩ := hlast rfl
      have htext : (Line.mk text .none).toText = text := List.append_nil text
      rw [unsplit_nil, htext, startsAfter_append_of_unbroken hunbroken, List.append_nil,
        if_neg (not_endsFresh_of_unbroken hunbroken hne)]
      rfl
    · rw [startsAfter_toText_append hunbroken hnone
        (fun he => head?_unsplit_ne hrest (hcr he)), ih hrest]
      simp only [endsFresh_toText_append hnone, List.length_append, Nat.add_assoc, List.cons_append]

theorem lineStarts_eq (t : Text) :
    lineStarts t = (List.range (split t).length).map (startOf (split t))
      ++ if EndsFresh t then [t.length] else [] := by
  have h := cons_startsAfter_unsplit (areLines_split t) 0
  rw [unsplit_split] at h
  simpa [lineStarts] using h

/-! ## Counting starts -/

/-- The first line starts up to every offset, and the others start behind it. -/
theorem countP_startOf_cons (line : Line) (lines : List Line) (offset : Nat) :
    (List.range (line :: lines).length).countP (startOf (line :: lines) · ≤ offset)
      = (List.range lines.length).countP (line.toText.length + startOf lines · ≤ offset) + 1 := by
  rw [List.length_cons, List.range_succ_eq_map, List.countP_cons_of_pos (by simp),
    List.countP_map]
  rfl

/-- **As many lines start up to an offset as there are up to the one that contains it.** -/
theorem exists_unique_contains (h : offset < (unsplit lines).length) :
    ∃ i, (List.range lines.length).countP (startOf lines · ≤ offset) = i + 1 ∧
      ∀ j, Contains lines j offset ↔ j = i := by
  induction lines generalizing offset with
  | nil => cases h
  | cons line lines ih =>
    rw [countP_startOf_cons]
    by_cases hlt : offset < line.toText.length
    · refine ⟨0, ?_, fun j => ?_⟩
      · rw [List.countP_eq_zero.mpr]
        intro k _
        simp only [decide_eq_true_eq]
        omega
      · cases j with
        | zero => exact iff_of_true (contains_cons_zero.mpr hlt) rfl
        | succ j =>
          rw [contains_cons_succ]
          omega
    · rw [unsplit_cons, List.length_append] at h
      obtain ⟨i, hi, hcontains⟩ := @ih (offset - line.toText.length) (by omega)
      refine ⟨i + 1, ?_, fun j => ?_⟩
      · rw [← hi]
        congr 2
        funext k
        exact decide_eq_decide.mpr (by omega)
      · cases j with
        | zero =>
          rw [contains_cons_zero]
          omega
        | succ j =>
          rw [contains_cons_succ, hcontains]
          omega

/-- The line of an offset is the one that contains it. -/
theorem exists_lineOf_eq (h : offset < t.length) :
    ∃ i, lineOf t offset = i + 1 ∧ ∀ j, Contains (split t) j offset ↔ j = i := by
  rw [← unsplit_split t] at h
  obtain ⟨i, hi, hcontains⟩ := exists_unique_contains h
  refine ⟨i, ?_, hcontains⟩
  -- the end of the text lies behind the offset, so it is not counted where it starts a line
  have hend : (if EndsFresh t then [t.length] else []).countP (· ≤ offset) = 0 := by
    rw [unsplit_split] at h
    split <;> simp [h]
  rw [lineOf, ← List.countP_eq_length_filter, lineStarts_eq, ← hi]
  simpa [List.countP_append, List.countP_map, Function.comp_def] using hend

end Line

/-- A location is on the line of its offset. -/
theorem line_ofSpan (t : Text) (s : Span) (file : String) :
    (Location.ofSpan t s file).start.line = lineOf t s.start := by
  simp [Location.ofSpan, Position.ofOffset, lineOf]

open Line Difference in
/-- **Lines are counted in the same way by offset and in a list of lines.** The starts of lines are
the sums of the lengths of the lines before them, and then the end of the text if it is empty or
ends with an ending. The line of an offset is the one that contains it. So a location and an entry
of a report mean the same line by a number. -/
theorem lineStarts_count_lines :
    (∀ t, lineStarts t = (List.range (split t).length).map (startOf (split t))
      ++ if t = [] ∨ t.getLast?.any isLineBreak = true then [t.length] else []) ∧
    (∀ t (offset : Nat), offset < t.length →
      ∃ i, lineOf t offset = i + 1 ∧ ∀ j, Contains (split t) j offset ↔ j = i) ∧
    ∀ texts : Change → Text, ∀ b ∈ blocks (texts .added) (texts .removed), ∀ e ∈ b.entries,
      ∃ i line, e.number = i + 1 ∧ (split (texts e.change))[i]? = some line ∧
        e.shown = line.visible ∧ ∀ s file, s.start < (texts e.change).length →
          ((Location.ofSpan (texts e.change) s file).start.line = e.number ↔
            Contains (split (texts e.change)) i s.start) := by
  refine ⟨lineStarts_eq, fun t offset => exists_lineOf_eq, fun texts b hb e he => ?_⟩
  obtain ⟨i, line, hnumber, hline, hshown⟩ := exists_line_of_mem_blocks hb he
  refine ⟨i, line, hnumber, ?_, hshown, fun s file hs => ?_⟩
  · rw [← hline]
    cases e.change <;> rfl
  · obtain ⟨j, hj, hcontains⟩ := exists_lineOf_eq hs
    rw [line_ofSpan, hj, hnumber, hcontains, Nat.add_right_cancel_iff, eq_comm]

end Assay
