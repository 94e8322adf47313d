import Assay.Diagnostic
import Assay.Locator
import Assay.Proofs.Markup.Roundtrip

/-!
# Marks that touch each other

The spans of a marked text are in order, and each stops before the next one starts. They may share
a position all the same, since an empty span shares the one that it stands at: two of them do
exactly if they start at the same offset, and then the one in front is empty. So a diagnostic that
is put on a mark touches the marks that start where it starts (`marks_touch_where_they_start`).
-/

namespace Assay

/-- Of two spans, one of which stops before the other one starts, the first is met by the other one
only where both start. -/
theorem Span.overlaps_iff_of_stop_le {a b : Span} (h : a.stop ≤ b.start) :
    a.overlaps b = true ↔ a.start = b.start := by
  rw [stop] at h
  by_cases ha : a.length = 0
  · by_cases hb : b.length = 0
    · rw [overlaps, if_pos ⟨ha, hb⟩, beq_iff_eq]
    · rw [overlaps, if_neg fun he => hb he.2, if_pos ha, contains_iff, stop]
      omega
  · by_cases hb : b.length = 0
    · rw [overlaps, if_neg fun he => ha he.1, if_neg ha, if_pos hb, contains_iff, stop]
      omega
    · rw [overlaps, if_neg fun he => ha he.1, if_neg ha, if_neg hb, Bool.and_eq_true,
        decide_eq_true_eq, decide_eq_true_eq, stop, stop]
      omega

namespace Markup

/-- A mark in front of another one: it comes first and stops before the other one starts. -/
structure MarkedSpan.Before (a b : MarkedSpan) : Prop where
  ordinal_lt : a.ordinal < b.ordinal
  stop_le : a.span.stop ≤ b.span.start

namespace MarkedSpan.Before

variable {a b : MarkedSpan}

theorem overlaps_iff (h : a.Before b) : a.span.overlaps b.span = true ↔ a.start = b.start :=
  Span.overlaps_iff_of_stop_le h.stop_le

/-- Of two marks that start together, the first one has no characters. -/
theorem length_eq_zero (h : a.Before b) (hstart : a.start = b.start) : a.length = 0 := by
  have hstop : a.start + a.length ≤ b.start := h.stop_le
  omega

end MarkedSpan.Before

/-- The marks of a text that can be read are one in front of the other. -/
theorem pairwise_before_of_parse {opening closing : String} {source : Text} {m : MarkedText}
    (h : parse opening closing source = .ok m) : m.spans.Pairwise MarkedSpan.Before := by
  obtain ⟨d, hparse⟩ : ∃ d : Delimiters, d.parse source = .ok m := by
    unfold parse at h
    cases hd : Delimiters.ofTexts opening.toList closing.toList with
    | error e =>
      rw [hd] at h
      cases h
    | ok d =>
      rw [hd] at h
      exact ⟨d, h⟩
  obtain ⟨s, -, rfl⟩ := exists_segments_of_parse hparse
  show s.spans.Pairwise MarkedSpan.Before
  rw [s.spans_eq]
  have hordinal : (spansFrom s.lead.length 0 s.marks).Pairwise fun a b => a.ordinal < b.ordinal := by
    rw [← List.pairwise_map, map_ordinal_spansFrom]
    exact List.pairwise_lt_range'
  exact hordinal.imp₂ (fun _ _ hlt hle => ⟨hlt, hle⟩) (pairwise_spansFrom _ _ _)

/-- Two marks, each in front of those behind it, are the same, or one is in front of the other. -/
theorem eq_or_before {spans : List MarkedSpan} (h : spans.Pairwise MarkedSpan.Before)
    {a b : MarkedSpan} (ha : a ∈ spans) (hb : b ∈ spans) : a = b ∨ a.Before b ∨ b.Before a := by
  have : Std.Symm fun a b : MarkedSpan => a = b ∨ a.Before b ∨ b.Before a :=
    ⟨fun _ _ hab => hab.imp Eq.symm Or.symm⟩
  have hpairwise : spans.Pairwise fun a b => a = b ∨ a.Before b ∨ b.Before a :=
    h.imp fun hab => Or.inr (Or.inl hab)
  refine hpairwise.forall_of_forall ?_ ha hb
  exact fun _ _ => Or.inl rfl

/-- The marks that a diagnostic touches. -/
def MarkedText.touchedBy (m : MarkedText) (d : Diagnostic) : List MarkedSpan :=
  m.spans.filter fun s => (Locator.span s.span).touches d.span m.text

/-- **Marks touch where they start together, and nowhere else.** Two marks of a text that can be read
overlap exactly if they start at the same offset, and then the first one is empty. So a diagnostic
on a mark touches the marks that start where it starts. -/
theorem marks_touch_where_they_start {opening closing : String} {source : Text} {m : MarkedText}
    (h : parse opening closing source = .ok m) :
    (∀ a ∈ m.spans, ∀ b ∈ m.spans, a.ordinal ≠ b.ordinal →
      (a.span.overlaps b.span = true ↔ a.start = b.start) ∧
      (a.start = b.start → a.ordinal < b.ordinal → a.length = 0)) ∧
    ∀ a ∈ m.spans, ∀ d : Diagnostic, d.span = a.span →
      m.touchedBy d = m.spans.filter fun b => b.start = a.start := by
  have hbefore := pairwise_before_of_parse h
  have hoverlaps (a b : MarkedSpan) (ha : a ∈ m.spans) (hb : b ∈ m.spans) :
      a.span.overlaps b.span = true ↔ a.start = b.start := by
    rcases eq_or_before hbefore ha hb with rfl | hab | hba
    · exact iff_of_true (Span.overlaps_self _) rfl
    · exact hab.overlaps_iff
    · rw [Span.overlaps_comm, hba.overlaps_iff, eq_comm]
  constructor
  · intro a ha b hb _
    refine ⟨hoverlaps a b ha hb, fun hstart hlt => ?_⟩
    rcases eq_or_before hbefore ha hb with rfl | hab | hba
    · exact absurd hlt (Nat.lt_irrefl _)
    · exact hab.length_eq_zero hstart
    · exact absurd hlt (Nat.lt_asymm hba.ordinal_lt)
  · intro a ha d hd
    refine List.filter_congr fun b hb => Bool.eq_iff_iff.mpr ?_
    rw [decide_eq_true_eq, Locator.touches, hd, hoverlaps a b ha hb, eq_comm]

/-- Of three marks, the empty one and the one behind it start together. -/
theorem marks_touch_where_they_start_three :
    parse "[|" "|]" "[||][|a|]b[|c|]".toList
        = .ok ⟨"abc".toList, [⟨0, 0, 0⟩, ⟨0, 1, 1⟩, ⟨2, 1, 2⟩]⟩ ∧
      ∀ d : Diagnostic, d.span = ⟨0, 1⟩ →
        MarkedText.touchedBy ⟨"abc".toList, [⟨0, 0, 0⟩, ⟨0, 1, 1⟩, ⟨2, 1, 2⟩]⟩ d
          = [⟨0, 0, 0⟩, ⟨0, 1, 1⟩] := by
  have h : parse "[|" "|]" "[||][|a|]b[|c|]".toList
      = .ok ⟨"abc".toList, [⟨0, 0, 0⟩, ⟨0, 1, 1⟩, ⟨2, 1, 2⟩]⟩ := by
    cbv
  refine ⟨h, fun d hd => ?_⟩
  exact (marks_touch_where_they_start h).2 ⟨0, 1, 1⟩ (by decide) d hd

/-- An empty mark overlaps the one that starts behind it, and a diagnostic on that one touches
both. -/
theorem empty_mark_overlaps_next : ∃ m a b, parse "[|" "|]" "[||][|a|]".toList = .ok m ∧
    a ∈ m.spans ∧ b ∈ m.spans ∧ a.ordinal ≠ b.ordinal ∧ a.span.overlaps b.span = true ∧
      ∀ d : Diagnostic, d.span = b.span → m.touchedBy d = [a, b] := by
  have h : parse "[|" "|]" "[||][|a|]".toList = .ok ⟨"a".toList, [⟨0, 0, 0⟩, ⟨0, 1, 1⟩]⟩ := by
    cbv
  refine ⟨_, ⟨0, 0, 0⟩, ⟨0, 1, 1⟩, h, by decide, by decide, by decide, by decide, fun d hd => ?_⟩
  rw [MarkedText.touchedBy, hd]
  decide

end Markup

end Assay
