import Assay.Proofs.Markup.Segments

/-!
# Scanning for delimiters

The scan takes delimiters from left to right. It finds the ones that are put around marked segments
if no other one is in its way: none starts inside a segment, and where a closing delimiter is put no
opening one starts, which would go first (`pieces_annotated`). `Segments.Unambiguous` says this of
the offsets of the annotated text. It is a matter of the delimiters how they can get in the way; of
the standard ones, only a `[` at the end of a marked segment can (`unambiguous_standard`).
-/

namespace Assay.Markup

/-! ## Delimiters in a text -/

/-- Whether a delimiter starts at an offset of a text. -/
def Delimiters.StartsAt (d : Delimiters) (t : Text) (offset : Nat) : Prop :=
  d.opening <+: t.drop offset ∨ d.closing <+: t.drop offset

/-- Whether no delimiter starts inside a segment in front of some text. -/
def Delimiters.Free (d : Delimiters) (segment rest : Text) : Prop :=
  ∀ k < segment.length, ¬ d.StartsAt (segment ++ rest) k

variable {d : Delimiters}

/-- What starts in a text starts as far behind another text in front of it. -/
theorem Delimiters.startsAt_append (before t : Text) (k : Nat) :
    d.StartsAt (before ++ t) (before.length + k) ↔ d.StartsAt t k := by
  rw [StartsAt, StartsAt, List.drop_length_add_append]

/-- In a text that does not contain the delimiters, none starts. -/
theorem Delimiters.free_of_not_infix {t : Text} (hopening : ¬ d.opening <:+: t)
    (hclosing : ¬ d.closing <:+: t) : d.Free t [] := by
  intro k _ hstarts
  rw [List.append_nil] at hstarts
  rcases hstarts with hstarts | hstarts
  · exact hopening (hstarts.isInfix.trans (List.drop_suffix k t).isInfix)
  · exact hclosing (hstarts.isInfix.trans (List.drop_suffix k t).isInfix)

/-! ## What the scan finds -/

theorem Delimiters.Free.tail {c : Char} {segment rest : Text} (h : d.Free (c :: segment) rest) :
    d.Free segment rest :=
  fun k hk hstarts => h (k + 1) (Nat.succ_lt_succ hk) hstarts

/-- A segment without delimiters is read character by character. -/
theorem pieces_append_of_free {segment rest : Text} (h : d.Free segment rest) :
    d.pieces (segment ++ rest) = segment.map .plain ++ d.pieces rest := by
  induction segment with
  | nil => rfl
  | cons c segment ih =>
    have hfirst := h 0 (Nat.zero_lt_succ _)
    rw [Delimiters.StartsAt, List.drop_zero, not_or, ← List.isPrefixOf_iff_prefix,
      ← List.isPrefixOf_iff_prefix, List.cons_append] at hfirst
    rw [List.cons_append, Delimiters.pieces, if_neg hfirst.1, if_neg hfirst.2, ih h.tail]
    rfl

theorem pieces_opening_append (d : Delimiters) (rest : Text) :
    d.pieces (d.opening ++ rest) = .opening :: d.pieces rest := by
  have hopens : d.opening.isPrefixOf (d.opening ++ rest) = true :=
    List.isPrefixOf_iff_prefix.mpr (List.prefix_append _ _)
  obtain ⟨c, t, ht⟩ := List.exists_cons_of_ne_nil d.opening_ne_nil
  have hcons : d.opening ++ rest = c :: (t ++ rest) := by rw [ht, List.cons_append]
  rw [hcons] at hopens ⊢
  rw [Delimiters.pieces, if_pos hopens, ← hcons, List.drop_left]

/-- Where no opening delimiter starts, a closing one is read as such. -/
theorem pieces_closing_append {rest : Text} (h : ¬ d.opening <+: d.closing ++ rest) :
    d.pieces (d.closing ++ rest) = .closing :: d.pieces rest := by
  have hcloses : d.closing.isPrefixOf (d.closing ++ rest) = true :=
    List.isPrefixOf_iff_prefix.mpr (List.prefix_append _ _)
  rw [← List.isPrefixOf_iff_prefix] at h
  obtain ⟨c, t, ht⟩ := List.exists_cons_of_ne_nil d.closing_ne_nil
  have hcons : d.closing ++ rest = c :: (t ++ rest) := by rw [ht, List.cons_append]
  rw [hcons] at h hcloses ⊢
  rw [Delimiters.pieces, if_neg h, if_pos hcloses, ← hcons, List.drop_left]

/-! ## Segments whose delimiters are found -/

/-- Whether the delimiters around the marked segments are the ones that a reader of the annotated
text comes upon: in the annotated text, no delimiter starts inside a segment, and no opening one
where a closing one is put. -/
structure Segments.Unambiguous (d : Delimiters) (s : Segments) : Prop where
  lead : ∀ k < s.lead.length, ¬ d.StartsAt (s.annotated d) k
  marked : ∀ before m after, s.marks = before ++ m :: after → ∀ k < m.marked.length,
    ¬ d.StartsAt (s.annotated d) ((annotated d ⟨s.lead, before⟩ ++ d.opening).length + k)
  closing : ∀ before m after, s.marks = before ++ m :: after → ¬ d.opening <+:
    (s.annotated d).drop (annotated d ⟨s.lead, before⟩ ++ d.opening ++ m.marked).length
  behind : ∀ before m after, s.marks = before ++ m :: after → ∀ k < m.behind.length,
    ¬ d.StartsAt (s.annotated d)
      ((annotated d ⟨s.lead, before⟩ ++ d.opening ++ m.marked ++ d.closing).length + k)

/-- Whether no other delimiter is in the way of those around a mark, with some marks behind it. -/
structure Mark.Clear (d : Delimiters) (m : Mark) (after : List Mark) : Prop where
  marked : d.Free m.marked (d.closing ++ Segments.annotated d ⟨m.behind, after⟩)
  closing : ¬ d.opening <+: d.closing ++ Segments.annotated d ⟨m.behind, after⟩
  behind : d.Free m.behind (Segments.annotated d ⟨[], after⟩)

namespace Segments

variable {lead : Text} {marks : List Mark} {s : Segments}

/-- What is in the way at some place of the annotated text depends on what is behind the place. -/
theorem unambiguous_iff : s.Unambiguous d ↔ d.Free s.lead (annotated d ⟨[], s.marks⟩) ∧
    ∀ before m after, s.marks = before ++ m :: after → m.Clear d after := by
  obtain ⟨lead, marks⟩ := s
  have hlead : annotated d ⟨lead, marks⟩ = lead ++ annotated d ⟨[], marks⟩ := by
    simp [annotated]
  have hmarked {before m after} (hm : marks = before ++ m :: after) :
      annotated d ⟨lead, marks⟩ = annotated d ⟨lead, before⟩ ++ d.opening ++
        (m.marked ++ (d.closing ++ annotated d ⟨m.behind, after⟩)) := by
    simp [annotated, hm]
  have hclosing {before m after} (hm : marks = before ++ m :: after) :
      annotated d ⟨lead, marks⟩ = annotated d ⟨lead, before⟩ ++ d.opening ++ m.marked ++
        (d.closing ++ annotated d ⟨m.behind, after⟩) := by
    rw [hmarked hm, List.append_assoc _ m.marked]
  have hbehind {before m after} (hm : marks = before ++ m :: after) :
      annotated d ⟨lead, marks⟩ = annotated d ⟨lead, before⟩ ++ d.opening ++ m.marked ++ d.closing
        ++ (m.behind ++ annotated d ⟨[], after⟩) := by
    simp [annotated, hm]
  constructor
  · intro h
    refine ⟨fun k hk => hlead ▸ h.lead k hk, fun before m after hm => ⟨?_, ?_, ?_⟩⟩
    · intro k hk
      have hk := h.marked before m after hm k hk
      rwa [hmarked hm, Delimiters.startsAt_append] at hk
    · have hk := h.closing before m after hm
      rwa [hclosing hm, List.drop_left] at hk
    · intro k hk
      have hk := h.behind before m after hm k hk
      rwa [hbehind hm, Delimiters.startsAt_append] at hk
  · rintro ⟨hfree, hclear⟩
    refine ⟨fun k hk => hlead ▸ hfree k hk, ?_, ?_, ?_⟩
    · intro before m after hm k hk
      rw [hmarked hm, Delimiters.startsAt_append]
      exact (hclear before m after hm).marked k hk
    · intro before m after hm
      rw [hclosing hm, List.drop_left]
      exact (hclear before m after hm).closing
    · intro before m after hm k hk
      rw [hbehind hm, Delimiters.startsAt_append]
      exact (hclear before m after hm).behind k hk

/-- **The delimiters around marked segments are found if they are unambiguous.** -/
theorem pieces_annotated (h : s.Unambiguous d) : d.pieces (s.annotated d) = s.pieces := by
  obtain ⟨hlead, hclear⟩ := unambiguous_iff.mp h
  obtain ⟨lead, marks⟩ := s
  clear h
  induction marks generalizing lead with
  | nil =>
    have hpieces := pieces_append_of_free hlead
    rw [annotated_nil, List.append_nil, Delimiters.pieces] at hpieces
    rw [annotated_nil]
    exact hpieces
  | cons m marks ih =>
    have hm : m.Clear d marks := hclear [] m marks rfl
    have hmarks : ∀ before n after, marks = before ++ n :: after → n.Clear d after :=
      fun before n after hn => hclear (m :: before) n after (congrArg (m :: ·) hn)
    rw [annotated_cons] at hlead ⊢
    simp only [List.append_assoc, List.nil_append] at hlead ⊢
    rw [pieces_append_of_free hlead, pieces_opening_append, pieces_append_of_free hm.marked,
      pieces_closing_append hm.closing, ih m.behind hm.behind hmarks, pieces_cons]

end Segments

/-! ## The standard delimiters -/

/-- Two characters at an offset of a segment are inside the segment, or the first one ends it. -/
theorem infix_or_of_pair_prefix {a b : Char} {segment rest : Text} {k : Nat}
    (hk : k < segment.length) (h : [a, b] <+: (segment ++ rest).drop k) :
    [a, b] <:+: segment ∨ segment.getLast? = some a ∧ rest.head? = some b := by
  induction segment generalizing k with
  | nil => cases hk
  | cons c segment ih =>
    cases k with
    | succ k =>
      rcases ih (Nat.lt_of_succ_lt_succ hk) h with hin | ⟨hlast, hhead⟩
      · exact Or.inl (hin.trans (List.suffix_cons _ _).isInfix)
      · exact Or.inr ⟨by rw [List.getLast?_cons, hlast]; rfl, hhead⟩
    | zero =>
      rw [List.drop_zero, List.cons_append, List.cons_prefix_cons] at h
      obtain ⟨rfl, h⟩ := h
      cases segment with
      | nil =>
        obtain ⟨t, rfl⟩ := h
        exact Or.inr ⟨rfl, rfl⟩
      | cons e segment =>
        rw [List.cons_append, List.cons_prefix_cons] at h
        obtain ⟨rfl, _⟩ := h
        exact Or.inl (List.prefix_append [a, b] segment).isInfix

/-- Whether none of the standard delimiters is in a segment. -/
def Unmarked (segment : Text) : Prop :=
  ¬ Delimiters.standard.opening <:+: segment ∧ ¬ Delimiters.standard.closing <:+: segment

instance (segment : Text) : Decidable (Unmarked segment) := inferInstanceAs (Decidable (_ ∧ _))

/-- A segment without delimiters has one started inside only by what is behind it. -/
theorem Unmarked.free {segment rest : Text} (h : Unmarked segment)
    (hopening : segment.getLast? = some '[' → rest.head? ≠ some '|')
    (hclosing : segment.getLast? = some '|' → rest.head? ≠ some ']') :
    Delimiters.standard.Free segment rest := by
  rintro k hk (hstarts | hstarts)
  · rcases infix_or_of_pair_prefix hk hstarts with hin | ⟨hlast, hhead⟩
    · exact h.1 hin
    · exact hopening hlast hhead
  · rcases infix_or_of_pair_prefix hk hstarts with hin | ⟨hlast, hhead⟩
    · exact h.2 hin
    · exact hclosing hlast hhead

/-- Behind a plain segment there is an opening delimiter or nothing. -/
theorem Unmarked.free_plain {segment : Text} (h : Unmarked segment) (marks : List Mark) :
    Delimiters.standard.Free segment (Segments.annotated .standard ⟨[], marks⟩) := by
  cases marks with
  | nil => exact h.free (fun _ => by simp) (fun _ => by simp)
  | cons m marks =>
    rw [Segments.annotated_cons]
    exact h.free (fun _ => by simp [Delimiters.standard]) (fun _ => by simp [Delimiters.standard])

/-- **Of the standard delimiters, only a `[` at the end of a marked segment gets in the way.** -/
theorem unambiguous_standard {s : Segments} (hlead : Unmarked s.lead)
    (hmarks : ∀ m ∈ s.marks, Unmarked m.marked ∧ Unmarked m.behind ∧
      m.marked.getLast? ≠ some '[') : s.Unambiguous .standard := by
  refine Segments.unambiguous_iff.mpr ⟨hlead.free_plain s.marks, ?_⟩
  intro before m after hm
  obtain ⟨hmarked, hbehind, hlast⟩ := hmarks m (by simp [hm])
  refine ⟨hmarked.free (fun hl => absurd hl hlast) (fun _ => by simp [Delimiters.standard]), ?_,
    hbehind.free_plain after⟩
  simp [Delimiters.standard]

end Assay.Markup
