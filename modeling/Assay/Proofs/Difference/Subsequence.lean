import Mathlib.Data.List.Basic
import Mathlib.Order.Bounds.Basic

/-!
# Longest common subsequences

`commonLengths left right` are the lengths of the common subsequences of two lists, and what is said
here is how its greatest element grows with the lists: it is zero if one list is empty, equal first
items add one, and of different first items one is left out. Items that both lists start with, or
end with, belong to a longest common subsequence.
-/

namespace Assay.Alignment

variable {α : Type} {left right : List α} {n : Nat}

/-- The lengths of the common subsequences of two lists. -/
def commonLengths (left right : List α) : Set Nat :=
  {n | ∃ common : List α, common.Sublist left ∧ common.Sublist right ∧ common.length = n}

theorem isGreatest_nil_left (right : List α) : IsGreatest (commonLengths [] right) 0 := by
  refine ⟨⟨[], List.nil_sublist _, List.nil_sublist _, rfl⟩, ?_⟩
  rintro _ ⟨common, hl, _, rfl⟩
  rw [List.sublist_nil.mp hl]
  exact Nat.le_refl _

theorem isGreatest_nil_right (left : List α) : IsGreatest (commonLengths left []) 0 := by
  refine ⟨⟨[], List.nil_sublist _, List.nil_sublist _, rfl⟩, ?_⟩
  rintro _ ⟨common, _, hr, rfl⟩
  rw [List.sublist_nil.mp hr]
  exact Nat.le_refl _

/-- An item that both lists start with adds one. -/
theorem isGreatest_cons_same (x : α) (h : IsGreatest (commonLengths left right) n) :
    IsGreatest (commonLengths (x :: left) (x :: right)) (n + 1) := by
  obtain ⟨⟨common, hl, hr, rfl⟩, hmax⟩ := h
  refine ⟨⟨x :: common, hl.cons_cons x, hr.cons_cons x, rfl⟩, ?_⟩
  rintro _ ⟨other, hl', hr', rfl⟩
  -- without its first item, a common subsequence is one of the rests
  have htail : other.tail.length ≤ common.length := hmax ⟨_, hl'.tail, hr'.tail, rfl⟩
  rw [List.length_tail] at htail
  omega

/-- Of two different items that the lists start with, one is left out. -/
theorem isGreatest_cons_ne {x y : α} {m : Nat} (hne : x ≠ y)
    (hleft : IsGreatest (commonLengths left (y :: right)) n)
    (hright : IsGreatest (commonLengths (x :: left) right) m) :
    IsGreatest (commonLengths (x :: left) (y :: right)) (max n m) := by
  constructor
  · rcases Nat.le_total m n with hle | hle
    · obtain ⟨common, hl, hr, hlen⟩ := hleft.1
      exact ⟨common, hl.cons x, hr, hlen.trans (Nat.max_eq_left hle).symm⟩
    · obtain ⟨common, hl, hr, hlen⟩ := hright.1
      exact ⟨common, hl, hr.cons y, hlen.trans (Nat.max_eq_right hle).symm⟩
  · rintro _ ⟨common, hl, hr, rfl⟩
    rcases List.sublist_cons_iff.mp hl with hl' | ⟨rest, rfl, _⟩
    · exact (hleft.2 ⟨common, hl', hr, rfl⟩).trans (Nat.le_max_left _ _)
    · rcases List.sublist_cons_iff.mp hr with hr' | ⟨_, he, _⟩
      · exact (hright.2 ⟨_, hl, hr', rfl⟩).trans (Nat.le_max_right _ _)
      · exact absurd (List.cons.inj he).1 hne

/-- Reversed lists have the same common subsequences, reversed. -/
theorem commonLengths_reverse (left right : List α) :
    commonLengths left.reverse right.reverse = commonLengths left right := by
  ext n
  constructor
  · rintro ⟨common, hl, hr, hlen⟩
    refine ⟨common.reverse, ?_, ?_, by rw [List.length_reverse, hlen]⟩
    · simpa using hl.reverse
    · simpa using hr.reverse
  · rintro ⟨common, hl, hr, hlen⟩
    exact ⟨common.reverse, hl.reverse, hr.reverse, by rw [List.length_reverse, hlen]⟩

/-- **Items that both lists start with belong to a longest common subsequence.** -/
theorem isGreatest_append_left (front : List α) (h : IsGreatest (commonLengths left right) n) :
    IsGreatest (commonLengths (front ++ left) (front ++ right)) (front.length + n) := by
  induction front with
  | nil => simpa using h
  | cons x front ih =>
    rw [List.length_cons, Nat.add_right_comm]
    exact isGreatest_cons_same x ih

/-- **Items that both lists end with belong to a longest common subsequence.** -/
theorem isGreatest_append_right (back : List α) (h : IsGreatest (commonLengths left right) n) :
    IsGreatest (commonLengths (left ++ back) (right ++ back)) (n + back.length) := by
  rw [← commonLengths_reverse] at h ⊢
  rw [List.reverse_append, List.reverse_append, Nat.add_comm, ← List.length_reverse]
  exact isGreatest_append_left back.reverse h

end Assay.Alignment
