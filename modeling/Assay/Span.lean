import Assay.Text.Basic

/-!
# Spans

A span is a stretch of a text, given by the offset where it starts and its length. Offsets count
code points from zero. An empty span is a place between two characters.

Two spans overlap if they share a position. An empty span shares the position that it stands at: it
overlaps a stretch that contains that offset, and an empty span at the same offset.
-/

namespace Assay

/-- A stretch of a text. -/
structure Span where
  start : Nat
  length : Nat
  deriving DecidableEq, Repr, Inhabited

/-- A start and a length of which one is negative. -/
structure InvalidSpan where
  start : Int
  length : Int
  deriving DecidableEq, Repr

/-- What is wrong, in words. -/
def InvalidSpan.message (e : InvalidSpan) : String :=
  "Invalid span (" ++ toString e.start ++ ", " ++ toString e.length ++ ")"

namespace Span

/-- The offset just behind the span. -/
def stop (s : Span) : Nat := s.start + s.length

/-- The span with the given start and length, which must not be negative. -/
def ofParts (start length : Int) : Except InvalidSpan Span :=
  if start < 0 ∨ length < 0 then .error ⟨start, length⟩
  else .ok ⟨start.toNat, length.toNat⟩

/-- The span from one offset to another. -/
def ofBounds (start stop : Int) : Except InvalidSpan Span := ofParts start (stop - start)

/-- The span between two offsets in ascending order. -/
def between (start stop : Nat) : Span := ⟨start, stop - start⟩

/-- Whether an offset lies inside the span. -/
def contains (s : Span) (offset : Int) : Bool :=
  (s.start : Int) ≤ offset && offset < (s.stop : Int)

/-- Whether two spans share a position. -/
def overlaps (a b : Span) : Bool :=
  if a.length = 0 ∧ b.length = 0 then a.start == b.start
  else if a.length = 0 then b.contains a.start
  else if b.length = 0 then a.contains b.start
  else a.start < b.stop && b.start < a.stop

/-- The span moved towards the end of the text. -/
def shift (s : Span) (distance : Nat) : Span := ⟨s.start + distance, s.length⟩

/-- The text under the span. -/
def textOf (s : Span) (t : Text) : Text := t.slice s.start s.length

/-- The span as a half-open interval. -/
def toText (s : Span) : String := "[" ++ toString s.start ++ ".." ++ toString s.stop ++ ")"

/-! ## Laws -/

@[simp] theorem stop_mk (start length : Nat) : (Span.mk start length).stop = start + length := rfl

theorem start_le_stop (s : Span) : s.start ≤ s.stop := Nat.le_add_right _ _

theorem between_stop {first last : Nat} (h : first ≤ last) : (between first last).stop = last := by
  simp only [between, stop_mk]
  omega

theorem ofBounds_of_le {first last : Nat} (h : first ≤ last) :
    ofBounds first last = .ok (between first last) := by
  rw [ofBounds, ofParts, if_neg (by omega), between]
  simp

@[simp] theorem shift_stop (s : Span) (n : Nat) : (s.shift n).stop = s.stop + n := by
  simp [shift, stop]
  omega

theorem contains_iff {s : Span} {offset : Nat} :
    s.contains offset = true ↔ s.start ≤ offset ∧ offset < s.stop := by
  simp only [contains, Bool.and_eq_true, decide_eq_true_eq]
  omega

/-- Overlapping is symmetric. -/
theorem overlaps_comm (a b : Span) : a.overlaps b = b.overlaps a := by
  unfold overlaps
  by_cases ha : a.length = 0
  · by_cases hb : b.length = 0
    · rw [if_pos ⟨ha, hb⟩, if_pos ⟨hb, ha⟩]
      exact BEq.comm
    · simp [ha, hb]
  · by_cases hb : b.length = 0
    · simp [ha, hb]
    · simp only [ha, hb, and_self, if_false]
      exact Bool.and_comm _ _

/-- A span shares a position with itself. -/
theorem overlaps_self (a : Span) : a.overlaps a = true := by
  unfold overlaps
  by_cases ha : a.length = 0
  · simp [ha]
  · simp [ha, stop]
    omega

end Span

end Assay
