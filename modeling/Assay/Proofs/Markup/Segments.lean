import Assay.Markup
import Mathlib.Data.List.Range

/-!
# Segments

A marked text that can be read is plain text and marked text in turn. `Segments` are such a text
taken apart; from them come the annotated text, the clean text, the pieces and the spans.

Pairing delimiters succeeds exactly on the pieces of segments, and then gives the clean text of the
segments and their spans (`resolve_eq_ok_iff`).
-/

namespace Assay.Markup

/-! ## Texts in segments -/

/-- A marked text and the plain text behind it, up to the next mark. -/
structure Mark where
  marked : Text
  behind : Text
  deriving DecidableEq, Repr

/-- Plain text and marked text in turn, beginning and ending with plain text. -/
structure Segments where
  lead : Text
  marks : List Mark
  deriving DecidableEq, Repr

namespace Segments

/-- The segments up to the mark with an index. -/
def upTo (s : Segments) (k : Nat) : Segments := ⟨s.lead, s.marks.take k⟩

/-- The segments put together. -/
def clean (s : Segments) : Text := s.lead ++ s.marks.flatMap fun m => m.marked ++ m.behind

/-- The segments put together, with delimiters around the marked ones. -/
def annotated (d : Delimiters) (s : Segments) : Text :=
  s.lead ++ s.marks.flatMap fun m => d.opening ++ m.marked ++ d.closing ++ m.behind

/-- The spans of the marked segments in the clean text. -/
def spans (s : Segments) : List MarkedSpan :=
  s.marks.mapIdx fun k m => ⟨(s.upTo k).clean.length, m.marked.length, k⟩

/-- The pieces of the annotated text, if its delimiters are read as they are meant. -/
def pieces (s : Segments) : List Piece :=
  s.lead.map .plain ++
    s.marks.flatMap fun m => .opening :: m.marked.map .plain ++ .closing :: m.behind.map .plain

variable {d : Delimiters} {lead : Text} {m : Mark} {marks : List Mark}

@[simp] theorem annotated_nil : annotated d ⟨lead, []⟩ = lead := List.append_nil _

theorem annotated_cons : annotated d ⟨lead, m :: marks⟩
    = lead ++ d.opening ++ m.marked ++ d.closing ++ annotated d ⟨m.behind, marks⟩ := by
  simp [annotated]

@[simp] theorem clean_nil : clean ⟨lead, []⟩ = lead := List.append_nil _

theorem clean_cons : clean ⟨lead, m :: marks⟩ = lead ++ m.marked ++ clean ⟨m.behind, marks⟩ := by
  simp [clean]

theorem pieces_cons : pieces ⟨lead, m :: marks⟩ = lead.map .plain
    ++ .opening :: (m.marked.map .plain ++ .closing :: pieces ⟨m.behind, marks⟩) := by
  simp [pieces]

/-- The pieces of segments look like the annotated text. -/
theorem flatMap_show_pieces (d : Delimiters) (s : Segments) :
    s.pieces.flatMap d.show = s.annotated d := by
  have hplain (t : Text) : (t.map Piece.plain).flatMap d.show = t := by
    rw [List.flatMap_map]
    exact List.flatMap_singleton' t
  obtain ⟨lead, marks⟩ := s
  induction marks generalizing lead with
  | nil => rw [pieces, List.flatMap_nil, List.append_nil, hplain, annotated_nil]
  | cons m marks ih =>
    rw [pieces_cons, annotated_cons]
    simp only [List.flatMap_append, List.flatMap_cons, hplain, ih, Delimiters.show,
      List.append_assoc]

end Segments

/-! ## Spans counted from the left -/

/-- The spans of marks, the first of which starts at an offset of the clean text and has `ordinal`
marks before it. -/
def spansFrom (offset ordinal : Nat) : List Mark → List MarkedSpan
  | [] => []
  | m :: marks => ⟨offset, m.marked.length, ordinal⟩
      :: spansFrom (offset + m.marked.length + m.behind.length) (ordinal + 1) marks

theorem spansFrom_eq_mapIdx (offset ordinal : Nat) (marks : List Mark) :
    spansFrom offset ordinal marks = marks.mapIdx fun k m =>
      ⟨offset + (Segments.clean ⟨[], marks.take k⟩).length, m.marked.length, ordinal + k⟩ := by
  induction marks generalizing offset ordinal with
  | nil => rfl
  | cons m marks ih =>
    rw [spansFrom, ih, List.mapIdx_cons]
    refine congrArg (_ :: ·) (congrArg (List.mapIdx · marks) ?_)
    funext k n
    simp only [List.take_succ_cons, Segments.clean, List.nil_append, List.flatMap_cons,
      List.length_append, MarkedSpan.mk.injEq, true_and]
    omega

theorem Segments.spans_eq (s : Segments) : s.spans = spansFrom s.lead.length 0 s.marks := by
  rw [spansFrom_eq_mapIdx, Segments.spans]
  refine congrArg (List.mapIdx · s.marks) ?_
  funext k m
  simp [Segments.upTo, Segments.clean]

/-! ## Pairing -/

variable {d : Delimiters} {source clean ordinal : Nat} {pending : Option Pending}

/-- Plain pieces move both offsets and go to the clean text. -/
theorem resolve_plain (t : Text) (rest : List Piece) :
    resolve d source clean pending ordinal (t.map .plain ++ rest)
      = (resolve d (source + t.length) (clean + t.length) pending ordinal rest).map
        fun m => ⟨t ++ m.text, m.spans⟩ := by
  induction t generalizing source clean with
  | nil =>
    rw [List.map_nil, List.nil_append, List.length_nil, Nat.add_zero, Nat.add_zero]
    cases resolve d source clean pending ordinal rest <;> rfl
  | cons c t ih =>
    rw [List.map_cons, List.cons_append, resolve, ih, List.length_cons, Nat.add_right_comm source,
      Nat.add_right_comm clean]
    cases resolve d (source + t.length + 1) (clean + t.length + 1) pending ordinal rest <;> rfl

/-- **The pieces of segments give their clean text and their spans.** -/
theorem resolve_pieces (d : Delimiters) (source clean ordinal : Nat) (s : Segments) :
    resolve d source clean none ordinal s.pieces
      = .ok ⟨s.clean, spansFrom (clean + s.lead.length) ordinal s.marks⟩ := by
  obtain ⟨lead, marks⟩ := s
  induction marks generalizing lead source clean ordinal with
  | nil =>
    rw [Segments.pieces, List.flatMap_nil, resolve_plain]
    rfl
  | cons m marks ih =>
    rw [Segments.pieces_cons, resolve_plain, resolve, resolve_plain, resolve, ih]
    simp only [Except.map, MarkedText.consSpan, Segments.clean_cons, spansFrom,
      Nat.add_sub_cancel_left, List.append_assoc]

theorem exists_of_map_ok {α β ε : Type} {r : Except ε α} {f : α → β} {b : β}
    (h : r.map f = .ok b) : ∃ a, r = .ok a := by
  cases r with
  | error e => cases h
  | ok a => exact ⟨a, rfl⟩

/-- What is paired without an error is the pieces of segments, without those up to the closing
delimiter of the first mark if this mark is open. -/
theorem exists_segments_of_resolve {ps : List Piece} {m : MarkedText}
    (h : resolve d source clean pending ordinal ps = .ok m) :
    match pending with
    | none => ∃ s : Segments, ps = s.pieces
    | some _ =>
      ∃ (marked : Text) (s : Segments), ps = marked.map .plain ++ .closing :: s.pieces := by
  induction ps generalizing source clean pending ordinal m with
  | nil =>
    cases pending with
    | none => exact ⟨⟨[], []⟩, rfl⟩
    | some p => cases h
  | cons p ps ih =>
    cases p with
    | plain c =>
      obtain ⟨rest, hrest⟩ := exists_of_map_ok h
      have hps := ih hrest
      cases pending with
      | none =>
        obtain ⟨s, rfl⟩ := hps
        exact ⟨⟨c :: s.lead, s.marks⟩, rfl⟩
      | some p =>
        obtain ⟨marked, s, rfl⟩ := hps
        exact ⟨c :: marked, s, rfl⟩
    | opening =>
      cases pending with
      | none =>
        obtain ⟨marked, s, rfl⟩ := ih h
        exact ⟨⟨[], ⟨marked, s.lead⟩ :: s.marks⟩, by rw [Segments.pieces_cons]; rfl⟩
      | some p => cases h
    | closing =>
      cases pending with
      | none => cases h
      | some p =>
        obtain ⟨rest, hrest⟩ := exists_of_map_ok h
        obtain ⟨s, rfl⟩ := ih hrest
        exact ⟨[], s, rfl⟩

/-- **Pairing succeeds on the pieces of segments, and on nothing else.** -/
theorem resolve_eq_ok_iff {ps : List Piece} {m : MarkedText} :
    resolve d 0 0 none 0 ps = .ok m ↔ ∃ s : Segments, ps = s.pieces ∧ m = ⟨s.clean, s.spans⟩ := by
  have hpieces (s : Segments) : resolve d 0 0 none 0 s.pieces = .ok ⟨s.clean, s.spans⟩ := by
    rw [resolve_pieces, Nat.zero_add, ← Segments.spans_eq]
  constructor
  · intro h
    obtain ⟨s, rfl⟩ := exists_segments_of_resolve h
    rw [hpieces] at h
    exact ⟨s, rfl, (Except.ok.inj h).symm⟩
  · rintro ⟨s, rfl, rfl⟩
    exact hpieces s

end Assay.Markup
