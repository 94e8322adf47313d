import Assay.Proofs.Markup.Scan

/-!
# Annotating and parsing

The two directions of the round trip between segments and annotated texts.

* Parsing undoes annotating, as long as the delimiters are found again (`parse_annotated_segments`).
* Annotating undoes parsing, without any condition: putting the delimiters of the spans into the
  clean text again gives the source (`annotated_of_parse`).

Both go through the pieces. A source that can be parsed is the annotated text of some segments,
since its pieces show the source and only the pieces of segments can be paired. What the spans of
segments are like is then a matter of counting.
-/

namespace Assay.Markup

variable {d : Delimiters} {s : Segments}

/-! ## Parsing segments -/

/-- Texts that are delimiters are accepted as such. -/
theorem parse_ofList (d : Delimiters) (source : Text) :
    parse (String.ofList d.opening) (String.ofList d.closing) source = d.parse source := by
  have hofTexts : Delimiters.ofTexts d.opening d.closing = .ok d := by
    rw [Delimiters.ofTexts, dif_neg (not_or.mpr ⟨d.opening_ne_nil, d.closing_ne_nil⟩),
      dif_neg d.distinct]
  rw [parse, String.toList_ofList, String.toList_ofList, hofTexts]
  rfl

theorem parse_annotated (h : s.Unambiguous d) :
    d.parse (s.annotated d) = .ok ⟨s.clean, s.spans⟩ := by
  rw [Delimiters.parse, Segments.pieces_annotated h]
  exact resolve_eq_ok_iff.mpr ⟨s, rfl, rfl⟩

/-- **What can be parsed is the annotated text of segments.** -/
theorem exists_segments_of_parse {source : Text} {m : MarkedText} (h : d.parse source = .ok m) :
    ∃ s : Segments, source = s.annotated d ∧ m = ⟨s.clean, s.spans⟩ := by
  obtain ⟨s, hpieces, rfl⟩ := resolve_eq_ok_iff.mp h
  refine ⟨s, ?_, rfl⟩
  rw [← d.flatMap_show_pieces source, hpieces, s.flatMap_show_pieces]

/-- A text that does not contain the delimiters is one plain segment. -/
theorem parse_of_not_infix {source : Text} (hopening : ¬ d.opening <:+: source)
    (hclosing : ¬ d.closing <:+: source) : d.parse source = .ok ⟨source, []⟩ := by
  have hplain : Segments.Unambiguous d ⟨source, []⟩ := by
    refine Segments.unambiguous_iff.mpr ⟨?_, fun before m after hm => ?_⟩
    · rw [Segments.annotated_nil]
      exact Delimiters.free_of_not_infix hopening hclosing
    · simp at hm
  have hparse := parse_annotated hplain
  rwa [Segments.annotated_nil, Segments.clean_nil] at hparse

/-- **Parsing undoes annotating.** If no delimiter is in the way of those around the marked
segments, parsing the annotated text gives the segments put together and one span for each marked
segment, as far from the start as what is in front of it is long. With the standard delimiters it
is enough that no segment has a delimiter in it and no marked segment ends with a `[`. -/
theorem parse_annotated_segments :
    (∀ (d : Delimiters) (s : Segments), s.Unambiguous d →
      parse (String.ofList d.opening) (String.ofList d.closing) (s.annotated d)
        = .ok ⟨s.clean, s.spans⟩) ∧
    ∀ s : Segments, Unmarked s.lead →
      (∀ m ∈ s.marks, Unmarked m.marked ∧ Unmarked m.behind ∧ m.marked.getLast? ≠ some '[') →
      s.Unambiguous .standard := by
  refine ⟨?_, fun s hlead hmarks => unambiguous_standard hlead hmarks⟩
  intro d s h
  rw [parse_ofList]
  exact parse_annotated h

/-- Halves of delimiters between and inside of marks, one of which is empty. -/
theorem parse_annotated_segments_halves :
    Segments.Unambiguous .standard ⟨['['], [⟨['a', '|'], [']']⟩, ⟨[], ['b', '[']⟩]⟩ ∧
      parse "[|" "|]" "[[|a||]][||]b[".toList
        = .ok ⟨"[a|]b[".toList, [⟨1, 2, 0⟩, ⟨4, 0, 1⟩]⟩ := by
  have h := parse_annotated_segments.2 ⟨['['], [⟨['a', '|'], [']']⟩, ⟨[], ['b', '[']⟩]⟩
    (by decide) (by decide)
  exact ⟨h, parse_annotated_segments.1 .standard _ h⟩

/-! ## Putting delimiters in again -/

/-- The text with another one put in at an offset. -/
def insertAt (t : Text) (offset : Nat) (part : Text) : Text :=
  t.take offset ++ part ++ t.drop offset

theorem insertAt_append {before t part : Text} {offset : Nat} (h : offset = before.length) :
    insertAt (before ++ t) offset part = before ++ part ++ t := by
  rw [insertAt, h, List.take_left, List.drop_left]

/-- A text with the delimiters of spans put in, span by span. The spans are in offsets of the text
before any delimiter was put in; `moved` is how far those put in so far have moved what is behind
them. -/
def insertMarks (d : Delimiters) (moved : Nat) (t : Text) : List MarkedSpan → Text
  | [] => t
  | s :: spans =>
    let opened := insertAt t (s.start + moved) d.opening
    let closed := insertAt opened (s.span.stop + moved + d.opening.length) d.closing
    insertMarks d (moved + d.opening.length + d.closing.length) closed spans

/-- The clean text with an opening delimiter at the start and a closing one at the end of every
span. -/
def MarkedText.annotated (d : Delimiters) (m : MarkedText) : Text := insertMarks d 0 m.text m.spans

theorem insertMarks_clean (front : Text) {lead : Text} {marks : List Mark}
    {offset ordinal moved : Nat} (h : offset + moved = (front ++ lead).length) :
    insertMarks d moved (front ++ Segments.clean ⟨lead, marks⟩) (spansFrom offset ordinal marks)
      = front ++ Segments.annotated d ⟨lead, marks⟩ := by
  induction marks generalizing front lead offset ordinal moved with
  | nil => rfl
  | cons m marks ih =>
    rw [List.length_append] at h
    have hopening : insertAt (front ++ Segments.clean ⟨lead, m :: marks⟩) (offset + moved) d.opening
        = front ++ lead ++ d.opening ++ m.marked ++ Segments.clean ⟨m.behind, marks⟩ := by
      have hcut : front ++ Segments.clean ⟨lead, m :: marks⟩
          = (front ++ lead) ++ (m.marked ++ Segments.clean ⟨m.behind, marks⟩) := by
        simp only [Segments.clean_cons, List.append_assoc]
      rw [hcut, insertAt_append (by rw [List.length_append, h])]
      simp only [List.append_assoc]
    rw [spansFrom, insertMarks]
    simp only [MarkedSpan.span, Span.stop_mk, hopening]
    rw [insertAt_append (by simp only [List.length_append]; omega), ih, Segments.annotated_cons]
    · simp only [List.append_assoc]
    · simp only [List.length_append]
      omega

theorem annotated_reading (d : Delimiters) (s : Segments) :
    (MarkedText.mk s.clean s.spans).annotated d = s.annotated d := by
  rw [MarkedText.annotated, s.spans_eq]
  exact insertMarks_clean [] rfl

/-! ## Where the spans are -/

theorem map_ordinal_spansFrom (offset ordinal : Nat) (marks : List Mark) :
    (spansFrom offset ordinal marks).map MarkedSpan.ordinal
      = List.range' ordinal (spansFrom offset ordinal marks).length := by
  induction marks generalizing offset ordinal with
  | nil => rfl
  | cons m marks ih => exact congrArg (ordinal :: ·) (ih _ _)

/-- Spans lie between the offset of the first one and the end of the text. -/
theorem bounds_of_mem_spansFrom {offset ordinal : Nat} {marks : List Mark} {span : MarkedSpan}
    (h : span ∈ spansFrom offset ordinal marks) :
    offset ≤ span.start ∧ span.span.stop ≤ offset + (Segments.clean ⟨[], marks⟩).length := by
  induction marks generalizing offset ordinal with
  | nil => cases h
  | cons m marks ih =>
    have hlen : (Segments.clean ⟨[], m :: marks⟩).length
        = m.marked.length + m.behind.length + (Segments.clean ⟨[], marks⟩).length := by
      simp [Segments.clean]
      omega
    rcases List.mem_cons.mp h with rfl | h
    · refine ⟨Nat.le_refl _, ?_⟩
      simp only [MarkedSpan.span, Span.stop_mk]
      omega
    · have hbounds := ih h
      omega

theorem pairwise_spansFrom (offset ordinal : Nat) (marks : List Mark) :
    (spansFrom offset ordinal marks).Pairwise fun a b => a.span.stop ≤ b.start := by
  induction marks generalizing offset ordinal with
  | nil => exact .nil
  | cons m marks ih =>
    refine List.pairwise_cons.mpr ⟨?_, ih _ _⟩
    intro span hspan
    have hstart := (bounds_of_mem_spansFrom hspan).1
    simp only [MarkedSpan.span, Span.stop_mk]
    omega

/-- **Annotating undoes parsing.** What can be parsed is the clean text with the delimiters of its
spans put in again. The spans are numbered in order, lie inside the clean text, and each of them
ends before the next one starts. A text without delimiters is parsed as it is. -/
theorem annotated_of_parse (d : Delimiters) (source : Text) :
    (∀ m, parse (String.ofList d.opening) (String.ofList d.closing) source = .ok m →
      m.annotated d = source ∧
      m.spans.map MarkedSpan.ordinal = List.range m.spans.length ∧
      (∀ span ∈ m.spans, span.span.stop ≤ m.text.length) ∧
      m.spans.Pairwise fun a b => a.span.stop ≤ b.start) ∧
    (¬ d.opening <:+: source → ¬ d.closing <:+: source →
      parse (String.ofList d.opening) (String.ofList d.closing) source = .ok ⟨source, []⟩) := by
  rw [parse_ofList]
  constructor
  · intro m h
    obtain ⟨s, rfl, rfl⟩ := exists_segments_of_parse h
    refine ⟨annotated_reading d s, ?_, ?_, ?_⟩
    · rw [s.spans_eq, map_ordinal_spansFrom, List.range_eq_range']
    · intro span hspan
      rw [s.spans_eq] at hspan
      have hstop := (bounds_of_mem_spansFrom hspan).2
      simp [Segments.clean] at hstop ⊢
      omega
    · rw [s.spans_eq]
      exact pairwise_spansFrom _ _ _
  · exact fun hopening hclosing => parse_of_not_infix hopening hclosing

/-- Two marks side by side, an empty one among halves of delimiters, and a text without any. -/
theorem annotated_of_parse_halves :
    parse "[|" "|]" "[[|a|][||]|b".toList = .ok ⟨"[a|b".toList, [⟨1, 1, 0⟩, ⟨2, 0, 1⟩]⟩ ∧
      (MarkedText.mk "[a|b".toList [⟨1, 1, 0⟩, ⟨2, 0, 1⟩]).annotated .standard
        = "[[|a|][||]|b".toList ∧
      parse "[|" "|]" "a[b|".toList = .ok ⟨"a[b|".toList, []⟩ := by
  have h : parse "[|" "|]" "[[|a|][||]|b".toList
      = .ok ⟨"[a|b".toList, [⟨1, 1, 0⟩, ⟨2, 0, 1⟩]⟩ := by
    cbv
  exact ⟨h, ((annotated_of_parse .standard _).1 _ h).1,
    (annotated_of_parse .standard _).2 (by decide) (by decide)⟩

end Assay.Markup
