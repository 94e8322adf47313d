import Assay.Proofs.Lines.Numbers
import Assay.Text.Blank
import Mathlib.Data.Nat.Find

/-!
# Where a line starts

A line starts at the beginning of a text and behind every character that ends a line: a line feed,
or a carriage return without a line feed behind it (`mem_lineStarts_iff`). So two offsets are on one
line if no character from the first one up to the second one ends a line (`lineOf_eq_of_not_endsLine`).

What stands between the start of a line and an offset on it can be looked at in two ways. `OpensLine`
takes the start from the list of starts. `FreshAfter` looks at the text in front of the offset alone,
as a scan does that goes through it. They agree (`opensLine_iff_freshAfter`), although a carriage
return ends a line for the scan as soon as it has read it: the offset must only not be that of a
line feed.
-/

namespace Assay

variable {t u : Text} {c : Char} {offset start : Nat}

/-! ## Characters that end lines -/

/-- A character ends a line: a line feed, or a carriage return with no line feed behind it. -/
def EndsLine (t : Text) (k : Nat) : Prop :=
  t[k]? = some '\n' ∨ t[k]? = some '\r' ∧ t[k + 1]? ≠ some '\n'

theorem EndsLine.exists_lineBreak {k : Nat} (h : EndsLine t k) :
    ∃ c, t[k]? = some c ∧ isLineBreak c = true := by
  rcases h with h | ⟨h, -⟩ <;> exact ⟨_, h, rfl⟩

@[simp] theorem endsLine_cons_succ {k : Nat} : EndsLine (c :: t) (k + 1) ↔ EndsLine t k := Iff.rfl

@[simp] theorem endsLine_cons_zero :
    EndsLine (c :: t) 0 ↔ c = '\n' ∨ c = '\r' ∧ t.head? ≠ some '\n' := by
  simp [EndsLine, List.head?_eq_getElem?]

/-- The first character of a text ends a line, or another one does. -/
theorem exists_endsLine_cons {s : Nat} : (∃ k, s = offset + k + 1 ∧ EndsLine (c :: t) k) ↔
    s = offset + 1 ∧ EndsLine (c :: t) 0 ∨ ∃ k, s = offset + 1 + k + 1 ∧ EndsLine t k := by
  constructor
  · rintro ⟨_ | k, rfl, hk⟩
    · exact Or.inl ⟨rfl, hk⟩
    · exact Or.inr ⟨k, by omega, hk⟩
  · rintro (⟨rfl, hk⟩ | ⟨k, rfl, hk⟩)
    · exact ⟨0, rfl, hk⟩
    · exact ⟨k + 1, by omega, hk⟩

theorem mem_startsAfter_iff {s : Nat} :
    s ∈ startsAfter offset t ↔ ∃ k, s = offset + k + 1 ∧ EndsLine t k := by
  fun_induction startsAfter offset t with
  | case1 => simp [EndsLine]
  | case2 offset rest ih =>
    rw [List.mem_cons, ih, exists_endsLine_cons, exists_endsLine_cons]
    simp
  | case3 offset rest hnext ih =>
    have hhead : rest.head? ≠ some '\n' := by
      intro hhead
      obtain ⟨more, rfl⟩ := List.head?_eq_some_iff.mp hhead
      exact hnext more rfl
    rw [List.mem_cons, ih, exists_endsLine_cons]
    simp [hhead]
  | case4 offset rest ih =>
    rw [List.mem_cons, ih, exists_endsLine_cons]
    simp
  | case5 offset c rest hcrlf hcr hlf ih =>
    rw [ih, exists_endsLine_cons]
    simp_all

/-- **A line starts behind every character that ends one.** -/
theorem mem_lineStarts_iff {s : Nat} :
    s ∈ lineStarts t ↔ s = 0 ∨ ∃ k, s = k + 1 ∧ EndsLine t k := by
  rw [lineStarts, List.mem_cons, mem_startsAfter_iff]
  simp

/-! ## Offsets on one line -/

/-- **Offsets are on one line if no character between them ends it.** -/
theorem lineOf_eq_of_not_endsLine {a b : Nat} (hab : a ≤ b)
    (h : ∀ k, a ≤ k → k < b → ¬ EndsLine t k) : lineOf t b = lineOf t a := by
  refine congrArg List.length (List.filter_congr fun s hs => ?_)
  rcases mem_lineStarts_iff.mp hs with rfl | ⟨k, rfl, hk⟩
  · simp
  · have hout : ¬ (a ≤ k ∧ k < b) := fun hin => h k hin.1 hin.2 hk
    exact decide_eq_decide.mpr (by omega)

/-- Text without line breaks is on one line. -/
theorem lineOf_eq_of_unbroken {before after : Text} (hu : Unbroken u) {k : Nat} (hk : k < u.length) :
    lineOf (before ++ u ++ after) (before.length + k : Nat)
      = lineOf (before ++ u ++ after) before.length := by
  refine lineOf_eq_of_not_endsLine (Nat.le_add_right _ _) fun i hi hlt hends => ?_
  obtain ⟨c, hc, hbreak⟩ := hends.exists_lineBreak
  rw [List.append_assoc, List.getElem?_append_right hi,
    List.getElem?_append_left (by omega)] at hc
  rw [hu c (List.mem_of_getElem? hc)] at hbreak
  cases hbreak

/-- Only blanks stand between the start of the line of an offset and the offset. -/
def OpensLine (t : Text) (offset : Nat) : Prop :=
  ∃ start ∈ lineStarts t, start ≤ offset ∧ lineOf t start = lineOf t offset ∧
    ∀ c ∈ (t.take offset).drop start, isBlank c = true

instance : Decidable (OpensLine t offset) :=
  decidable_of_iff (∃ start ∈ lineStarts t, start ≤ offset ∧ lineOf t start = lineOf t offset ∧
    ((t.take offset).drop start).all isBlank = true) (by simp only [OpensLine, List.all_eq_true])

/-- Each offset is on the line of the last start up to it. -/
theorem exists_last_lineStart (t : Text) (offset : Nat) : ∃ start ∈ lineStarts t, start ≤ offset ∧
    lineOf t start = lineOf t offset ∧ ∀ s ∈ lineStarts t, s ≤ offset → s ≤ start := by
  have hzero : 0 ∈ lineStarts t := List.mem_cons_self
  have hlast (s : Nat) (hs : s ∈ lineStarts t) (hle : s ≤ offset) :
      s ≤ Nat.findGreatest (· ∈ lineStarts t) offset := Nat.le_findGreatest hle hs
  refine ⟨Nat.findGreatest (· ∈ lineStarts t) offset, ?_, Nat.findGreatest_le offset, ?_, hlast⟩
  · exact Nat.findGreatest_spec (P := (· ∈ lineStarts t)) (Nat.zero_le offset) hzero
  · refine (lineOf_eq_of_not_endsLine (Nat.findGreatest_le offset) fun k hk hlt hends => ?_).symm
    have hnext := hlast (k + 1) (mem_lineStarts_iff.mpr (Or.inr ⟨k, rfl, hends⟩)) hlt
    omega

/-! ## Fresh lines -/

/-- What stands behind the last line of a text, if anything, is blank. -/
def FreshAfter (t : Text) : Prop :=
  ∃ before blanks, t = before ++ blanks ∧ EndsFresh before ∧ ∀ c ∈ blanks, isBlank c = true

theorem freshAfter_nil : FreshAfter [] := ⟨[], [], rfl, Or.inl rfl, List.forall_mem_nil _⟩

/-- Line breaks are blank. -/
theorem isBlank_of_isLineBreak (h : isLineBreak c = true) : isBlank c = true := by
  simp only [isLineBreak, Bool.or_eq_true, beq_iff_eq] at h
  rcases h with rfl | rfl <;> decide

/-- **A character more**: a line break makes a line fresh, and a blank keeps it so. -/
theorem freshAfter_concat :
    FreshAfter (t ++ [c]) ↔ isLineBreak c = true ∨ isBlank c = true ∧ FreshAfter t := by
  constructor
  · rintro ⟨before, blanks, heq, hfresh, hblanks⟩
    rcases List.eq_nil_or_concat blanks with rfl | ⟨blanks, d, rfl⟩
    · rw [List.append_nil] at heq
      rw [← heq] at hfresh
      simpa [EndsFresh] using Or.inl hfresh
    · rw [List.concat_eq_append, ← List.append_assoc] at heq
      obtain ⟨rfl, hcd⟩ := List.append_inj' heq rfl
      obtain rfl : c = d := List.singleton_inj.mp hcd
      simp only [List.concat_eq_append, List.forall_mem_append, List.forall_mem_singleton] at hblanks
      exact Or.inr ⟨hblanks.2, before, blanks, rfl, hfresh, hblanks.1⟩
  · rintro (hbreak | ⟨hblank, before, blanks, rfl, hfresh, hblanks⟩)
    · exact ⟨t ++ [c], [], (List.append_nil _).symm, Or.inr (by simpa using hbreak),
        List.forall_mem_nil _⟩
    · refine ⟨before, blanks ++ [c], List.append_assoc _ _ _, hfresh, ?_⟩
      simpa [or_imp, forall_and] using ⟨hblanks, hblank⟩

/-- A line is not fresh behind a character that is no blank, up to the next line break. -/
theorem not_freshAfter_of_not_blank (hc : isBlank c = false) (hu : Unbroken u) :
    ¬ FreshAfter (t ++ c :: u) := by
  induction u using List.reverseRecOn with
  | nil =>
    rw [freshAfter_concat]
    rintro (hbreak | ⟨hblank, -⟩)
    · rw [isBlank_of_isLineBreak hbreak] at hc
      cases hc
    · rw [hblank] at hc
      cases hc
  | append_singleton u d ih =>
    obtain ⟨hu, hd⟩ := unbroken_append.mp hu
    rw [show t ++ c :: (u ++ [d]) = t ++ c :: u ++ [d] by simp, freshAfter_concat]
    rintro (hbreak | ⟨-, hfresh⟩)
    · rw [(unbroken_cons.mp hd).1] at hbreak
      cases hbreak
    · exact ih hu hfresh

/-- A start of a line has a fresh line in front of it. -/
theorem endsFresh_take_of_mem_lineStarts (h : start ∈ lineStarts t) : EndsFresh (t.take start) := by
  rcases mem_lineStarts_iff.mp h with rfl | ⟨k, rfl, hk⟩
  · exact Or.inl List.take_zero
  · obtain ⟨c, hc, hbreak⟩ := hk.exists_lineBreak
    refine Or.inr ?_
    rw [List.take_add_one, hc]
    simpa using hbreak

/-- A fresh line behind some text starts there, or behind a line feed that goes with a carriage
return at the end of that text. -/
theorem exists_lineStart_of_endsFresh (h : EndsFresh t) :
    t.length ∈ lineStarts (t ++ u) ∨ u.head? = some '\n' ∧ t.length + 1 ∈ lineStarts (t ++ u) := by
  rcases List.eq_nil_or_concat t with rfl | ⟨t, c, rfl⟩
  · exact Or.inl List.mem_cons_self
  · have hbreak : isLineBreak c = true := by simpa [EndsFresh] using h
    have hlast : (t ++ [c] ++ u)[t.length]? = some c := by simp
    have hnext : (t ++ [c] ++ u)[t.length + 1]? = u.head? := by
      rw [List.getElem?_append_right (by simp), List.head?_eq_getElem?]
      simp
    simp only [List.concat_eq_append, List.length_append, List.length_singleton, mem_lineStarts_iff]
    by_cases hu : u.head? = some '\n'
    · refine Or.inr ⟨hu, Or.inr ⟨t.length + 1, rfl, Or.inl (hnext.trans hu)⟩⟩
    · refine Or.inl (Or.inr ⟨t.length, rfl, ?_⟩)
      simp only [isLineBreak, Bool.or_eq_true, beq_iff_eq] at hbreak
      rcases hbreak with rfl | rfl
      · exact Or.inl hlast
      · exact Or.inr ⟨hlast, by rwa [hnext]⟩

/-- **An offset opens its line exactly if the line is fresh behind the text in front of it**, unless
a line feed stands there. -/
theorem opensLine_iff_freshAfter (hle : offset ≤ t.length) (hlf : t[offset]? ≠ some '\n') :
    OpensLine t offset ↔ FreshAfter (t.take offset) := by
  constructor
  · rintro ⟨start, hstart, hstop, -, hblanks⟩
    refine ⟨t.take start, (t.take offset).drop start, ?_, endsFresh_take_of_mem_lineStarts hstart,
      hblanks⟩
    have htake := List.take_append_drop start (t.take offset)
    rwa [List.take_take, Nat.min_eq_left hstop, eq_comm] at htake
  · rintro ⟨before, blanks, htake, hfresh, hblanks⟩
    obtain ⟨start, hstart, hstop, hline, hlast⟩ := exists_last_lineStart t offset
    refine ⟨start, hstart, hstop, hline, fun c hc => hblanks c ?_⟩
    have hsource : t = before ++ (blanks ++ t.drop offset) := by
      rw [← List.append_assoc, ← htake, List.take_append_drop]
    have hlength : before.length + blanks.length = offset := by
      rw [← List.length_append, ← htake, List.length_take_of_le hle]
    -- no line starts between the fresh one and the blanks that are looked at
    have hbefore : before.length ≤ start := by
      rcases exists_lineStart_of_endsFresh (u := blanks ++ t.drop offset) hfresh with hs | ⟨hu, hs⟩
      · exact hlast _ (hsource ▸ hs) (by omega)
      · cases blanks with
        | nil =>
          rw [List.nil_append, List.head?_drop] at hu
          exact absurd hu hlf
        | cons d blanks =>
          rw [List.length_cons] at hlength
          exact Nat.le_of_succ_le (hlast _ (hsource ▸ hs) (by omega))
    rw [htake, List.drop_append, List.drop_eq_nil_of_le hbefore, List.nil_append] at hc
    exact List.mem_of_mem_drop hc

end Assay
