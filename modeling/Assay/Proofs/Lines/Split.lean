import Assay.Line
import Mathlib.Data.List.Chain

/-!
# Splitting into lines and joining them

A text and its lines determine each other (`split_eq_iff`). One half is that splitting gives lines
that can stand behind one another (`areLines_split`), the other that such lines are found again in
the text that they make up (`split_unsplit`). Both rest on what a scan does with a whole line:
`split_toText_append` cuts it off, whatever is behind it, unless its carriage return would be read
together with a line feed there.
-/

namespace Assay

/-! ## Text without line breaks -/

/-- A text with no character of an ending. -/
def Unbroken (t : Text) : Prop := ∀ c ∈ t, isLineBreak c = false

theorem unbroken_nil : Unbroken [] := nofun

theorem unbroken_cons {c : Char} {t : Text} :
    Unbroken (c :: t) ↔ isLineBreak c = false ∧ Unbroken t := List.forall_mem_cons

theorem unbroken_append {t u : Text} : Unbroken (t ++ u) ↔ Unbroken t ∧ Unbroken u :=
  List.forall_mem_append

/-- A text is unbroken if a look at all of its characters says so. -/
theorem unbroken_of_any {t : Text} (h : t.any isLineBreak = false) : Unbroken t := by
  simpa only [Unbroken, List.any_eq_false, Bool.not_eq_true] using h

theorem isLineBreak_eq_false {c : Char} : isLineBreak c = false ↔ c ≠ '\r' ∧ c ≠ '\n' := by
  simp [isLineBreak, and_comm]

namespace Line

variable {line : Line} {lines : List Line} {t u : Text} {c : Char}

/-! ## Lines behind one another -/

/-- Lines as a text has them. -/
structure AreLines (lines : List Line) : Prop where
  unbroken : ∀ line ∈ lines, Unbroken line.text
  /-- A line with another one behind it has an ending. -/
  ended : lines.IsChain fun line _ => line.ending ≠ .none
  /-- A line without an ending is not empty. -/
  nonempty : ∀ line ∈ lines, line.ending = .none → line.text ≠ []
  /-- A carriage return with a line feed behind it is one ending, not two. -/
  apart : lines.IsChain fun line next => line.ending = .cr → next ≠ ⟨[], .lf⟩

theorem areLines_nil : AreLines [] := ⟨nofun, .nil, nofun, .nil⟩

theorem areLines_cons : AreLines (line :: lines) ↔
    Unbroken line.text ∧ (line.ending = .none → line.text ≠ [] ∧ lines = []) ∧
      (line.ending = .cr → lines.head? ≠ some ⟨[], .lf⟩) ∧ AreLines lines := by
  constructor
  · rintro ⟨hunbroken, hended, hnonempty, hapart⟩
    rw [List.isChain_cons] at hended hapart
    refine ⟨hunbroken line List.mem_cons_self, fun hnone => ?_, fun hcr hhead => ?_, ?_⟩
    · refine ⟨hnonempty line List.mem_cons_self hnone, List.head?_eq_none_iff.mp ?_⟩
      exact Option.eq_none_iff_forall_not_mem.mpr fun next hnext => hended.1 next hnext hnone
    · exact hapart.1 _ hhead hcr rfl
    · exact ⟨fun l hl => hunbroken l (List.mem_cons_of_mem _ hl), hended.2,
        fun l hl => hnonempty l (List.mem_cons_of_mem _ hl), hapart.2⟩
  · rintro ⟨hunbroken, hlast, hcr, hrest⟩
    refine ⟨List.forall_mem_cons.mpr ⟨hunbroken, hrest.unbroken⟩, ?_,
      List.forall_mem_cons.mpr ⟨fun hnone => (hlast hnone).1, hrest.nonempty⟩, ?_⟩
    · refine List.isChain_cons.mpr ⟨fun next hnext hnone => ?_, hrest.ended⟩
      rw [(hlast hnone).2] at hnext
      cases hnext
    · refine List.isChain_cons.mpr ⟨fun next hnext hreturn he => hcr hreturn ?_, hrest.apart⟩
      rw [← he]
      exact hnext

/-- A line with an ending goes in front of others. -/
theorem AreLines.cons (h : AreLines lines) (hunbroken : Unbroken line.text)
    (hended : line.ending ≠ .none) (hcr : line.ending = .cr → lines.head? ≠ some ⟨[], .lf⟩) :
    AreLines (line :: lines) :=
  areLines_cons.mpr ⟨hunbroken, fun hnone => absurd hnone hended, hcr, h⟩

/-- Texts that end with a line feed each, and a last one that does not end. -/
theorem areLines_concat {texts : List Text} (h : ∀ t ∈ texts, Unbroken t) (hu : Unbroken u)
    (hne : u ≠ []) : AreLines (texts.map (Line.mk · .lf) ++ [⟨u, .none⟩]) := by
  induction texts with
  | nil => exact areLines_cons.mpr ⟨hu, fun _ => ⟨hne, rfl⟩, nofun, areLines_nil⟩
  | cons t texts ih =>
    obtain ⟨ht, hrest⟩ := List.forall_mem_cons.mp h
    exact (ih hrest).cons ht (by simp) (by simp)

/-! ## Scanning a line -/

theorem split_cons_of_unbroken (h : isLineBreak c = false) (t : Text) :
    split (c :: t) = consFirst c (split t) := by
  obtain ⟨hcr, hlf⟩ := isLineBreak_eq_false.mp h
  rw [split]
  · rintro _ rfl
    exact absurd rfl hcr
  · rintro rfl
    exact absurd rfl hcr
  · rintro rfl
    exact absurd rfl hlf

/-- Characters in front of a first line belong to it. -/
theorem foldr_consFirst (t : Text) (line : Line) (lines : List Line) :
    t.foldr consFirst (line :: lines) = ⟨t ++ line.text, line.ending⟩ :: lines := by
  induction t with
  | nil => rfl
  | cons c t ih => rw [List.foldr_cons, ih]; rfl

/-- Text without line breaks is read up to what is behind it. -/
theorem split_append_of_unbroken (h : Unbroken t) (u : Text) :
    split (t ++ u) = t.foldr consFirst (split u) := by
  induction t with
  | nil => rfl
  | cons c t ih =>
    obtain ⟨hc, ht⟩ := unbroken_cons.mp h
    rw [List.cons_append, split_cons_of_unbroken hc, ih ht, List.foldr_cons]

/-- Text without line breaks is one line. -/
theorem split_of_unbroken (h : Unbroken t) (hne : t ≠ []) : split t = [⟨t, .none⟩] := by
  obtain ⟨t, c, rfl⟩ := (List.eq_nil_or_concat t).resolve_left hne
  rw [List.concat_eq_append] at h ⊢
  obtain ⟨ht, hc⟩ := unbroken_append.mp h
  rw [split_append_of_unbroken ht, split_cons_of_unbroken (unbroken_cons.mp hc).1, split, consFirst,
    foldr_consFirst]

/-- **A whole line is cut off**, unless its carriage return goes together with a line feed behind
it. -/
theorem split_toText_append (hunbroken : Unbroken line.text) (hended : line.ending ≠ .none)
    (hcr : line.ending = .cr → u.head? ≠ some '\n') : split (line.toText ++ u) = line :: split u := by
  obtain ⟨t, ending⟩ := line
  have hending : split (ending.toText ++ u) = ⟨[], ending⟩ :: split u := by
    cases ending with
    | crlf => rfl
    | lf => rfl
    | cr =>
      show split ('\r' :: u) = _
      rw [split]
      rintro rest rfl
      exact hcr rfl rfl
    | none => exact absurd rfl hended
  rw [toText, List.append_assoc, split_append_of_unbroken hunbroken, hending, foldr_consFirst,
    List.append_nil]

/-! ## Splitting -/

theorem head?_split_ne (h : t.head? ≠ some '\n') : (split t).head? ≠ some ⟨[], .lf⟩ := by
  intro hhead
  obtain ⟨lines, hlines⟩ := List.head?_eq_some_iff.mp hhead
  have htext := unsplit_split t
  rw [hlines] at htext
  rw [← htext] at h
  exact h rfl

/-- A character more in front of the first line leaves lines that can stand behind one another. -/
theorem AreLines.consFirst (h : AreLines lines) (hc : isLineBreak c = false) :
    AreLines (consFirst c lines) := by
  cases lines with
  | nil =>
    exact areLines_cons.mpr ⟨unbroken_cons.mpr ⟨hc, unbroken_nil⟩,
      fun _ => ⟨List.cons_ne_nil _ _, rfl⟩, nofun, areLines_nil⟩
  | cons line lines =>
    obtain ⟨hunbroken, hlast, hcr, hrest⟩ := areLines_cons.mp h
    exact areLines_cons.mpr ⟨unbroken_cons.mpr ⟨hc, hunbroken⟩,
      fun hnone => ⟨List.cons_ne_nil _ _, (hlast hnone).2⟩, hcr, hrest⟩

/-- **Splitting gives lines as a text has them.** -/
theorem areLines_split (t : Text) : AreLines (split t) := by
  fun_induction split t with
  | case1 => exact areLines_nil
  | case2 rest ih => exact ih.cons unbroken_nil (by decide) (by simp)
  | case3 rest hnext ih =>
    refine ih.cons unbroken_nil (by decide) fun _ => head?_split_ne fun hhead => ?_
    obtain ⟨rest', rfl⟩ := List.head?_eq_some_iff.mp hhead
    exact hnext rest' rfl
  | case4 rest ih => exact ih.cons unbroken_nil (by decide) (by simp)
  | case5 c rest hcrlf hcr hlf ih => exact ih.consFirst (isLineBreak_eq_false.mpr ⟨hcr, hlf⟩)

/-! ## Joining -/

/-- The text of lines starts with a line feed only if an empty line with this ending is the
first. -/
theorem head?_unsplit_ne (h : AreLines lines) (hhead : lines.head? ≠ some ⟨[], .lf⟩) :
    (unsplit lines).head? ≠ some '\n' := by
  cases lines with
  | nil => nofun
  | cons line lines =>
    obtain ⟨text, ending⟩ := line
    obtain ⟨hunbroken, hlast, -, -⟩ := areLines_cons.mp h
    cases text with
    | cons c text =>
      intro hc
      obtain rfl : c = '\n' := Option.some.inj hc
      exact (isLineBreak_eq_false.mp (unbroken_cons.mp hunbroken).1).2 rfl
    | nil =>
      cases ending with
      | crlf | cr => exact fun hc => absurd (Option.some.inj hc) (by decide)
      | lf => exact absurd rfl hhead
      | none => exact absurd rfl (hlast rfl).1

/-- **Lines as a text has them are found again in their text.** -/
theorem split_unsplit (h : AreLines lines) : split (unsplit lines) = lines := by
  induction lines with
  | nil => rfl
  | cons line lines ih =>
    obtain ⟨hunbroken, hlast, hcr, hrest⟩ := areLines_cons.mp h
    by_cases hnone : line.ending = .none
    · obtain ⟨text, ending⟩ := line
      obtain rfl : ending = .none := hnone
      obtain ⟨hne, rfl⟩ := hlast rfl
      simpa [toText, LineEnding.toText] using split_of_unbroken hunbroken hne
    · rw [unsplit_cons, split_toText_append hunbroken hnone, ih hrest]
      exact fun he => head?_unsplit_ne hrest (hcr he)

/-- **A text and its lines determine each other.** The lines of a text are the one list of lines
that makes up the text and in which no text has a line break, all lines but the last are ended, a
last one that is not ended has a character, and no lone carriage return is followed by an empty line
that ends with a line feed. -/
theorem split_eq_iff (t : Text) (lines : List Line) :
    split t = lines ↔ unsplit lines = t ∧ AreLines lines := by
  constructor
  · rintro rfl
    exact ⟨unsplit_split t, areLines_split t⟩
  · rintro ⟨rfl, h⟩
    exact split_unsplit h

end Line

end Assay
