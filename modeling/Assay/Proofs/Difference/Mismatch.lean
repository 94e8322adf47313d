import Assay.Action
import Assay.Proofs.Difference.Layout

/-!
# A mismatch is always shown

Texts are compared as a whole and their difference is shown line by line. Both agree: a difference
has a block exactly if the texts are not the same (`blocks_eq_nil_iff`), since the lines of a text
determine it, and equal lists of lines are kept as they are. So the fault about a mismatch always
shows a line that differs (`mismatch_shows_entry`).
-/

namespace Assay

/-! ## Equal texts -/

section Same

variable {α : Type} [DecidableEq α]

theorem Alignment.sharedFront_self (list : List α) : sharedFront list list = list.length := by
  induction list with
  | nil => rfl
  | cons x list ih => rw [sharedFront, if_pos rfl, ih, List.length_cons]

/-- Equal lists are kept as they are. -/
theorem align_self (list : List α) :
    align list list = (List.range list.length).map fun k => .keep k k := by
  have hcore : list.drop list.length = [] := List.drop_length
  simp only [align, Alignment.sharedFront_self, hcore]
  simp [Alignment.walk]

end Same

namespace Difference

variable {actual expected : Text}

/-- What is kept is in no block. -/
theorem group_map_keep (left right : List Line) (indices : List Nat) :
    group left right (indices.map fun k => .keep k k) = (⟨[], []⟩, []) := by
  induction indices with
  | nil => rfl
  | cons k indices ih =>
    rw [List.map_cons, group, ih]
    rfl

theorem blocks_self (t : Text) : blocks t t = [] := by
  rw [blocks, align_self, blocksOf, group_map_keep]
  rfl

/-! ## Different texts -/

/-- Without blocks, the lines are the same. -/
theorem split_eq_of_blocks_eq_nil (h : blocks actual expected = []) :
    Line.split actual = Line.split expected := by
  obtain ⟨front, hunks, -, hlines, hblocks⟩ := exists_hunks actual expected
  have hnone : hunks = [] := by
    rw [h] at hblocks
    rw [← List.length_eq_zero_iff, ← length_blocksFrom, ← hblocks, List.length_nil]
  subst hnone
  exact (hlines .added).trans (hlines .removed).symm

theorem blocks_eq_nil_iff : blocks actual expected = [] ↔ actual = expected := by
  constructor
  · intro h
    rw [← Line.unsplit_split actual, split_eq_of_blocks_eq_nil h, Line.unsplit_split]
  · rintro rfl
    exact blocks_self _

/-- If there are blocks, a line of the report is that of an entry. -/
theorem exists_entry_line (h : actual ≠ expected) :
    ∃ b ∈ blocks actual expected, ∃ e ∈ b.entries,
      ⟨e.toText.toList, .lf⟩ ∈ Line.split (differenceReport actual expected).toList := by
  obtain ⟨b, hb⟩ := List.exists_mem_of_ne_nil _ (blocks_eq_nil_iff.not.mpr h)
  obtain ⟨e, he⟩ := List.exists_mem_of_ne_nil _ ((laidOut_blocks actual expected).nonempty b hb)
  refine ⟨b, hb, e, he, ?_⟩
  have hline : ⟨e.toText.toList, .lf⟩ ∈ entryLines (differenceReport actual expected) := by
    rw [entryLines_differenceReport]
    exact List.mem_map_of_mem (List.mem_flatMap_of_mem hb he)
  exact (List.mem_filter.mp hline).1

/-- **A mismatch is always shown.** Two texts have no blocks, and no report, exactly if they are the
same, and only then is one accepted for the other. Otherwise the fault is a mismatch that tells the
report, and a line of the report is that of an entry. -/
theorem mismatch_shows_entry (actual expected : Text) :
    (blocks actual expected = [] ↔ actual = expected) ∧
    (differenceReport actual expected = "" ↔ actual = expected) ∧
    ((∃ f, verifyTransformation actual expected = .error f) ↔ actual ≠ expected) ∧
    ∀ f, verifyTransformation actual expected = .error f → f = .mismatch actual expected ∧
      f.message
        = "Transformed code is different than expected:\n" ++ differenceReport actual expected ∧
      ∃ b ∈ blocks actual expected, ∃ e ∈ b.entries,
        ⟨e.toText.toList, .lf⟩ ∈ Line.split (differenceReport actual expected).toList := by
  refine ⟨blocks_eq_nil_iff, differenceReport_eq_empty_iff.trans blocks_eq_nil_iff, ?_, ?_⟩
  · by_cases h : actual = expected <;> simp [verifyTransformation, h]
  · intro f hf
    by_cases h : actual = expected
    · rw [verifyTransformation, if_pos h] at hf
      cases hf
    · rw [verifyTransformation, if_neg h] at hf
      obtain rfl := Except.error.inj hf
      exact ⟨rfl, rfl, exists_entry_line h⟩

end Difference

end Assay
