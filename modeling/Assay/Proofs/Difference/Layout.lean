import Assay.Proofs.Difference.Blocks
import Assay.Proofs.Lines.Split
import Assay.Proofs.Numbers.Digits

/-!
# The lines of a report

A report is laid out in lines, each in its place: the legend, for every block a separator, a
headline and the entries, and a separator at the end. Cut into lines again, the report gives all of
them back (`split_report`), since nothing that is shown has a line break. Entries are the lines that
start with the sign of a side, so a report tells all entries of its blocks (`entryLines_report`),
and the line of an entry tells the entry (`toText_injective`).
-/

namespace Assay

/-! ## What is shown has no line breaks -/

theorem isLineBreak_visibleChar (c : Char) : isLineBreak (visibleChar c) = false := by
  unfold visibleChar
  split <;> simp_all [isLineBreak]

theorem unbroken_visible (t : Text) : Unbroken (visible t) := by
  intro c hc
  obtain ⟨c, -, rfl⟩ := List.mem_map.mp hc
  exact isLineBreak_visibleChar c

theorem unbroken_of_isDigit {t : Text} (h : ∀ c ∈ t, c.isDigit = true) : Unbroken t := by
  intro c hc
  have hdigit := h c hc
  rw [isLineBreak_eq_false]
  constructor <;> rintro rfl <;> exact absurd hdigit (by decide)

namespace Difference

/-! ## The line of an entry -/

/-- The sign of a side as a character. -/
def Change.signChar : Change → Char
  | .removed => '-'
  | .added => '+'

theorem Change.signChar_injective : Function.Injective Change.signChar := by
  rintro ⟨⟩ ⟨⟩ h <;> first | rfl | exact absurd h (by decide)

/-- A number in the width that reports give it. -/
def paddedNumber (n : Nat) : Text :=
  List.replicate (5 - (toString n).length) ' ' ++ Nat.toDigits 10 n

theorem filter_paddedNumber (n : Nat) :
    (paddedNumber n).filter Char.isDigit = Nat.toDigits 10 n := by
  rw [paddedNumber, List.filter_append, List.filter_replicate_of_neg (by decide), List.nil_append]
  exact List.filter_eq_self.mpr fun c hc => isDigit_of_mem_digits hc

theorem paddedNumber_injective {n m : Nat} (h : paddedNumber n = paddedNumber m) : n = m := by
  have hdigits := congrArg (List.filter Char.isDigit) h
  rw [filter_paddedNumber, filter_paddedNumber] at hdigits
  exact digits_injective hdigits

theorem eq_space_or_isDigit_of_mem {n : Nat} {c : Char} (h : c ∈ paddedNumber n) :
    c = ' ' ∨ c.isDigit = true :=
  (List.mem_append.mp h).imp List.eq_of_mem_replicate isDigit_of_mem_digits

theorem takeWhile_paddedNumber (n : Nat) (rest : Text) :
    (paddedNumber n ++ ':' :: rest).takeWhile (· != ':') = paddedNumber n := by
  have hcolon : ∀ c ∈ paddedNumber n, (c != ':') = true := by
    intro c hc
    rcases eq_space_or_isDigit_of_mem hc with rfl | hdigit
    · rfl
    · rw [bne_iff_ne]
      rintro rfl
      exact absurd hdigit (by decide)
  rw [List.takeWhile_append_of_pos hcolon, List.takeWhile_cons_of_neg (by decide), List.append_nil]

/-- The line of an entry: the sign of its side, its number, and what is shown. -/
theorem toList_toText (e : Entry) : e.toText.toList
    = e.change.signChar :: (paddedNumber e.number ++ ':' :: ' ' :: e.shown) := by
  obtain ⟨n, c, shown⟩ := e
  cases c <;>
    simp [Entry.toText, Change.sign, Change.signChar, paddedNumber, ← String.length_toList]

/-- **The line of an entry tells the entry.** -/
theorem toText_injective : Function.Injective Entry.toText := by
  intro e e' h
  have hline := congrArg String.toList h
  rw [toList_toText, toList_toText, List.cons.injEq] at hline
  obtain ⟨hsign, hrest⟩ := hline
  have hnumber := congrArg (List.takeWhile (· != ':')) hrest
  rw [takeWhile_paddedNumber, takeWhile_paddedNumber] at hnumber
  rw [hnumber, List.append_cancel_left_eq, List.cons.injEq, List.cons.injEq] at hrest
  obtain ⟨n, c, shown⟩ := e
  obtain ⟨n', c', shown'⟩ := e'
  obtain rfl : n = n' := paddedNumber_injective hnumber
  obtain rfl : c = c' := Change.signChar_injective hsign
  obtain rfl : shown = shown' := hrest.2.2
  rfl

theorem unbroken_toText (e : Entry) (h : Unbroken e.shown) : Unbroken e.toText.toList := by
  rw [toList_toText, paddedNumber]
  refine unbroken_cons.mpr ⟨?_, unbroken_append.mpr ⟨unbroken_append.mpr ⟨?_, ?_⟩, ?_⟩⟩
  · cases e.change <;> rfl
  · exact fun c hc => (List.eq_of_mem_replicate hc) ▸ rfl
  · exact unbroken_of_isDigit fun c hc => isDigit_of_mem_digits hc
  · exact unbroken_cons.mpr ⟨rfl, unbroken_cons.mpr ⟨rfl, h⟩⟩

/-! ## The lines of a report -/

/-- Blocks that can be laid out in lines: each has an entry, and no entry shows a line break. -/
structure LaidOut (blocks : List Block) : Prop where
  nonempty : ∀ b ∈ blocks, b.entries ≠ []
  unbroken : ∀ b ∈ blocks, ∀ e ∈ b.entries, Unbroken e.shown

/-- The headline of a block. -/
def Block.headline (b : Block) : Text :=
  "Line ".toList ++ (Nat.toDigits 10 b.firstLine ++ [':'])

/-- The lines of a block in a report. -/
def Block.lines (b : Block) : List Text :=
  separator.toList :: b.headline :: b.entries.map (·.toText.toList)

/-- The lines of a report that are ended. -/
def reportLines (blocks : List Block) : List Text :=
  legend.toList :: blocks.flatMap Block.lines

/-- Strings with line feeds between them are lines, but for a last line feed. -/
theorem toList_intercalate_newline {strings : List String} (h : strings ≠ []) :
    ("\n".intercalate strings).toList ++ ['\n'] = strings.flatMap (·.toList ++ ['\n']) := by
  induction strings with
  | nil => exact absurd rfl h
  | cons s strings ih =>
    cases strings with
    | nil => simp
    | cons s' strings =>
      rw [String.intercalate_cons_cons, List.flatMap_cons, ← ih (List.cons_ne_nil _ _)]
      simp

theorem toList_block_toText {b : Block} (h : b.entries ≠ []) : b.toText.toList ++ ['\n']
    = (b.headline :: b.entries.map (·.toText.toList)).flatMap (· ++ ['\n']) := by
  have hsome : b.entries.map Entry.toText ≠ [] := List.map_eq_nil_iff.not.mpr h
  have hentries := toList_intercalate_newline hsome
  rw [Block.toText, String.toList_append, List.append_assoc, hentries]
  simp [Block.headline, List.flatMap_map]

theorem toList_block_report (b : Block) (h : b.entries ≠ []) :
    [separator, b.toText].flatMap (·.toList ++ ['\n']) = b.lines.flatMap (· ++ ['\n']) := by
  rw [Block.lines, List.flatMap_cons, List.flatMap_singleton, toList_block_toText h]
  rfl

variable {bs : List Block}

/-- A report is its lines, and a separator that does not end. -/
theorem toList_report (h : LaidOut bs) (hsome : bs ≠ []) : (report bs).toList
    = (reportLines bs).flatMap (· ++ ['\n']) ++ separator.toList := by
  have hlines : (legend :: bs.flatMap (fun b => [separator, b.toText])).flatMap
      (·.toList ++ ['\n']) = (reportLines bs).flatMap (· ++ ['\n']) := by
    rw [reportLines, List.flatMap_cons, List.flatMap_cons, List.flatMap_assoc, List.flatMap_assoc]
    exact congrArg _ (List.flatMap_congr fun b hb => toList_block_report b (h.nonempty b hb))
  rw [report, if_neg (by simpa using hsome), String.intercalate_append_of_ne_nil
    (List.cons_ne_nil _ _) (List.cons_ne_nil _ _), String.intercalate_singleton, ← hlines,
    ← toList_intercalate_newline (List.cons_ne_nil _ _), String.toList_append,
    String.toList_append]
  rfl

theorem unbroken_legend : Unbroken legend.toList := unbroken_of_any (by decide +kernel)

theorem unbroken_separator : Unbroken separator.toList := unbroken_of_any (by decide +kernel)

/-- What a report shows has no line breaks. -/
theorem unbroken_of_mem_reportLines (h : LaidOut bs) {t : Text}
    (ht : t ∈ reportLines bs) : Unbroken t := by
  rcases List.mem_cons.mp ht with rfl | ht
  · exact unbroken_legend
  · obtain ⟨b, hb, ht⟩ := List.mem_flatMap.mp ht
    rcases List.mem_cons.mp ht with rfl | ht
    · exact unbroken_separator
    · rcases List.mem_cons.mp ht with rfl | ht
      · refine unbroken_append.mpr ⟨?_, unbroken_append.mpr ⟨?_, ?_⟩⟩
        · exact unbroken_of_any (by decide)
        · exact unbroken_of_isDigit fun c hc => isDigit_of_mem_digits hc
        · exact unbroken_cons.mpr ⟨rfl, unbroken_nil⟩
      · obtain ⟨e, he, rfl⟩ := List.mem_map.mp ht
        exact unbroken_toText e (h.unbroken b hb e he)

/-- **A report is cut into the lines that it is laid out in.** -/
theorem split_report (h : LaidOut bs) (hsome : bs ≠ []) :
    Line.split (report bs).toList
      = (reportLines bs).map (Line.mk · .lf) ++ [⟨separator.toList, .none⟩] := by
  have hlines := Line.areLines_concat (fun t => unbroken_of_mem_reportLines h)
    unbroken_separator (by decide)
  rw [toList_report h hsome, ← Line.split_unsplit hlines]
  simp [Line.unsplit, Line.toText, LineEnding.toText, List.flatMap_map]

/-! ## Entries in a report -/

/-- Whether a line starts with the sign of a side. -/
def isEntryLine (line : Line) : Bool :=
  line.text.head? = some Change.removed.signChar ∨ line.text.head? = some Change.added.signChar

/-- The lines of a report that are entries. -/
def entryLines (report : String) : List Line := (Line.split report.toList).filter isEntryLine

theorem filter_block_lines (b : Block) :
    (b.lines.map (Line.mk · .lf)).filter isEntryLine
      = b.entries.map fun e => ⟨e.toText.toList, .lf⟩ := by
  have hseparator : isEntryLine ⟨separator.toList, .lf⟩ = false := by decide
  have hheadline : isEntryLine ⟨b.headline, .lf⟩ = false := rfl
  have hentry : ∀ line ∈ b.entries.map (fun e => Line.mk e.toText.toList .lf),
      isEntryLine line = true := by
    intro line hline
    obtain ⟨e, -, rfl⟩ := List.mem_map.mp hline
    rw [toList_toText]
    cases e.change <;> rfl
  simp only [Block.lines, List.map_cons, List.map_map, List.filter_cons, hseparator, hheadline,
    Bool.false_eq_true, if_false]
  exact List.filter_eq_self.mpr hentry

/-- **A report tells the entries of its blocks.** -/
theorem entryLines_report (h : LaidOut bs) : entryLines (report bs)
    = (bs.flatMap Block.entries).map fun e => ⟨e.toText.toList, .lf⟩ := by
  by_cases hsome : bs = []
  · rw [hsome]
    rfl
  · have hlegend : isEntryLine ⟨legend.toList, .lf⟩ = false := by decide
    have hseparator : isEntryLine ⟨separator.toList, .none⟩ = false := by decide
    simp only [entryLines, split_report h hsome, reportLines, List.filter_append, List.map_cons,
      List.filter_cons, hlegend, hseparator, Bool.false_eq_true, if_false, List.filter_nil,
      List.append_nil, List.map_flatMap, List.filter_flatMap]
    exact List.flatMap_congr fun b _ => filter_block_lines b

/-! ## The report about two texts -/

variable {actual expected : Text}

theorem laidOut_blocks (actual expected : Text) : LaidOut (blocks actual expected) where
  nonempty := by
    obtain ⟨front, hunks, hapart, hlines, hblocks⟩ := exists_hunks actual expected
    rw [hblocks]
    exact (describes_blocksFrom hapart hlines).nonempty
  unbroken := by
    intro b hb e he
    obtain ⟨i, line, -, -, hshown⟩ := exists_line_of_mem_blocks hb he
    rw [hshown]
    exact unbroken_visible _

/-- The entries of two texts can be read in their report. -/
theorem entryLines_differenceReport (actual expected : Text) :
    entryLines (differenceReport actual expected)
      = ((blocks actual expected).flatMap Block.entries).map fun e => ⟨e.toText.toList, .lf⟩ :=
  entryLines_report (laidOut_blocks actual expected)

/-- There is a report if there are blocks. -/
theorem differenceReport_eq_empty_iff :
    differenceReport actual expected = "" ↔ blocks actual expected = [] := by
  constructor
  · intro hempty
    by_contra hsome
    have htext := toList_report (laidOut_blocks actual expected) hsome
    rw [← differenceReport, hempty, reportLines, List.flatMap_cons] at htext
    simp at htext
  · intro hnone
    rw [differenceReport, hnone]
    rfl

end Difference

end Assay
