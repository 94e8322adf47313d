import Assay.Proofs.Difference.Script
import Mathlib.Data.List.GetD

/-!
# Alignments are longest

An alignment keeps a longest common subsequence. The argument follows the three parts of `align`.

* The table holds the greatest length of a common subsequence of every two suffixes (`fills_table`).
  It is filled row by row, and a row is right if the row below it is (`isGreatest_getD_row`).
* The walk leaves an item out only where the table promises as much without it, so it keeps as many
  items as a common subsequence can have (`isGreatest_kept_walk`).
* What the lists share at their ends is kept at once, which loses nothing (`exists_align_eq`).

Of the scripts for two lists, the ones that keep the most items change the fewest
(`align_isLongest`).
-/

namespace Assay.Alignment

variable {α : Type} {left right : List α} {i j : Nat}

/-! ## A list in three parts -/

section Parts

variable {list : List α} {n m : Nat} (h : n + m ≤ list.length)
include h

/-- The last items of a list are those of a rest that is long enough. -/
theorem drop_drop_of_le :
    (list.drop n).drop ((list.drop n).length - m) = list.drop (list.length - m) := by
  rw [List.drop_drop, List.length_drop]
  congr 1
  omega

/-- A list is its front, its core and its back. -/
theorem front_core_back :
    list.take n ++ (list.drop n).take (list.length - n - m) ++ list.drop (list.length - m)
      = list := by
  rw [← drop_drop_of_le h, List.length_drop, List.append_assoc, List.take_append_drop,
    List.take_append_drop]

theorem length_front_core :
    (list.take n ++ (list.drop n).take (list.length - n - m)).length = list.length - m := by
  rw [List.length_append, List.length_take, List.length_take, List.length_drop]
  omega

end Parts

/-! ## The table -/

theorem headD_eq_getD {β : Type} (l : List β) (default : β) :
    l.headD default = l.getD 0 default := by
  cases l <;> rfl

theorem getD_tail {β : Type} (l : List β) (b : Nat) (default : β) :
    l.tail.getD b default = l.getD (b + 1) default := by
  cases l <;> rfl

/-- The entries from `i` and `j` on hold the greatest length of a common subsequence of every two
suffixes. -/
def Fills (rows : List (List Nat)) (i j : Nat) (left right : List α) : Prop :=
  ∀ a ≤ left.length, ∀ b ≤ right.length,
    IsGreatest (commonLengths (left.drop a) (right.drop b)) (entry rows (i + a) (j + b))

namespace Fills

variable {rows : List (List Nat)} {x y : α}

theorem start (h : Fills rows i j left right) :
    IsGreatest (commonLengths left right) (entry rows i j) :=
  h 0 (Nat.zero_le _) 0 (Nat.zero_le _)

theorem tail_left (h : Fills rows i j (x :: left) right) : Fills rows (i + 1) j left right := by
  intro a ha b hb
  rw [Nat.add_assoc, Nat.add_comm 1]
  exact h (a + 1) (Nat.succ_le_succ ha) b hb

theorem tail_right (h : Fills rows i j left (y :: right)) : Fills rows i (j + 1) left right := by
  intro a ha b hb
  rw [Nat.add_assoc j, Nat.add_comm 1]
  exact h a ha (b + 1) (Nat.succ_le_succ hb)

end Fills

variable [DecidableEq α]

/-- **A row is right if the row below it is.** -/
theorem isGreatest_getD_row {x : α} {below : List Nat}
    (h : ∀ b ≤ right.length, IsGreatest (commonLengths left (right.drop b)) (below.getD b 0)) :
    ∀ b ≤ right.length,
      IsGreatest (commonLengths (x :: left) (right.drop b)) ((row x right below).getD b 0) := by
  induction right generalizing below with
  | nil =>
    intro b hb
    obtain rfl := Nat.le_zero.mp hb
    exact isGreatest_nil_right _
  | cons y right ih =>
    have hbelow : ∀ b ≤ right.length,
        IsGreatest (commonLengths left (right.drop b)) (below.tail.getD b 0) := by
      intro b hb
      rw [getD_tail]
      exact h (b + 1) (Nat.succ_le_succ hb)
    have hlater := ih hbelow
    intro b hb
    cases b with
    | succ b => exact hlater b (Nat.le_of_succ_le_succ hb)
    | zero =>
      simp only [row, headD_eq_getD, List.getD_cons_zero, List.drop_zero]
      split
      · next he =>
        subst he
        exact isGreatest_cons_same x (hbelow 0 (Nat.zero_le _))
      · next hne =>
        exact isGreatest_cons_ne hne (h 0 (Nat.zero_le _)) (hlater 0 (Nat.zero_le _))

/-- **The table holds the greatest length of a common subsequence of every two suffixes.** -/
theorem fills_table (left right : List α) : Fills (table left right) 0 0 left right := by
  simp only [Fills, Nat.zero_add]
  induction left with
  | nil =>
    intro a ha b hb
    obtain rfl := Nat.le_zero.mp ha
    have hzero : entry (table [] right) 0 b = 0 := by
      rw [entry, table, List.getD_cons_zero]
      exact List.getD_replicate 0 (Nat.lt_succ_of_le hb)
    rw [hzero]
    exact isGreatest_nil_left _
  | cons x left ih =>
    intro a ha b hb
    cases a with
    | succ a => exact ih a (Nat.le_of_succ_le_succ ha) b hb
    | zero =>
      have hbelow : ∀ b ≤ right.length, IsGreatest (commonLengths left (right.drop b))
          (((table left right).headD []).getD b 0) := by
        rw [headD_eq_getD]
        exact ih 0 (Nat.zero_le _)
      exact isGreatest_getD_row hbelow b hb

/-! ## The walk -/

/-- **The walk is a script for its two lists, whatever the table holds.** -/
theorem edits_walk (rows : List (List Nat)) (shared i j : Nat) (left right : List α) :
    Edits (shared + i) (shared + j) left right (walk rows shared i j left right) := by
  fun_induction walk rows shared i j left right with
  | case1 i j right => exact edits_insert_all right _ _
  | case2 i j left => exact edits_delete_all left _ _
  | case3 i j left y right ih => exact .keep y ih
  | case4 i j x left y right _ _ ih => exact .delete x ih
  | case5 i j x left y right _ _ ih => exact .insert y ih

/-- **With a right table, the walk keeps a longest common subsequence of its two lists.** -/
theorem isGreatest_kept_walk {rows : List (List Nat)} (shared : Nat)
    (h : Fills rows i j left right) :
    IsGreatest (commonLengths left right) (kept (walk rows shared i j left right)) := by
  fun_induction walk rows shared i j left right with
  | case1 i j right =>
    rw [kept_insert_all]
    exact isGreatest_nil_left right
  | case2 i j left =>
    rw [kept_delete_all]
    exact isGreatest_nil_right left
  | case3 i j left y right ih =>
    rw [kept_keep]
    exact isGreatest_cons_same y (ih h.tail_left.tail_right)
  | case4 i j x left y right hne hle ih =>
    -- the entry that the walk goes to is what it keeps from there on
    have hkept := ih h.tail_left
    rw [h.tail_left.start.unique hkept] at hle
    rw [kept_delete, ← Nat.max_eq_left hle]
    exact isGreatest_cons_ne hne hkept h.tail_right.start
  | case5 i j x left y right hne hlt ih =>
    have hkept := ih h.tail_right
    rw [h.tail_right.start.unique hkept] at hlt
    rw [kept_insert, ← Nat.max_eq_right (Nat.le_of_lt (Nat.lt_of_not_le hlt))]
    exact isGreatest_cons_ne hne h.tail_left.start hkept

/-! ## The shared ends -/

/-- Up to where they part, two lists are the same. -/
theorem take_sharedFront (left right : List α) :
    left.take (sharedFront left right) = right.take (sharedFront left right) := by
  fun_induction sharedFront left right with
  | case1 left y right ih => exact congrArg (y :: ·) ih
  | case2 => rfl
  | case3 => rfl

/-- How many items two lists share at their backs, behind what they share at their fronts. -/
def sharedBack (left right : List α) : Nat :=
  sharedFront (left.drop (sharedFront left right)).reverse
    (right.drop (sharedFront left right)).reverse

theorem sharedFront_add_sharedBack_le_left (left right : List α) :
    sharedFront left right + sharedBack left right ≤ left.length := by
  have hfront := sharedFront_le_left left right
  have hback : sharedBack left right ≤ (left.drop (sharedFront left right)).reverse.length :=
    sharedFront_le_left _ _
  rw [List.length_reverse, List.length_drop] at hback
  omega

theorem sharedFront_add_sharedBack_le_right (left right : List α) :
    sharedFront left right + sharedBack left right ≤ right.length := by
  have hfront := sharedFront_le_right left right
  have hback : sharedBack left right ≤ (right.drop (sharedFront left right)).reverse.length :=
    sharedFront_le_right _ _
  rw [List.length_reverse, List.length_drop] at hback
  omega

/-- From where they come together again, two lists are the same. -/
theorem drop_sharedBack (left right : List α) :
    left.drop (left.length - sharedBack left right)
      = right.drop (right.length - sharedBack left right) := by
  rw [← drop_drop_of_le (sharedFront_add_sharedBack_le_left left right),
    ← drop_drop_of_le (sharedFront_add_sharedBack_le_right left right)]
  refine List.reverse_inj.mp ?_
  rw [← List.take_reverse, ← List.take_reverse]
  exact take_sharedFront _ _

/-- An alignment keeps what the lists share at their two ends and walks through what is between. -/
theorem exists_align_eq (left right : List α) :
    ∃ front leftCore rightCore back, left = front ++ leftCore ++ back ∧
      right = front ++ rightCore ++ back ∧
      align left right = (List.range front.length).map (fun k => .keep k k)
        ++ walk (table leftCore rightCore) front.length 0 0 leftCore rightCore
        ++ (List.range back.length).map fun k =>
          .keep ((front ++ leftCore).length + k) ((front ++ rightCore).length + k) := by
  have hleft := sharedFront_add_sharedBack_le_left left right
  have hright := sharedFront_add_sharedBack_le_right left right
  refine ⟨left.take (sharedFront left right), _,
    (right.drop (sharedFront left right)).take
      (right.length - sharedFront left right - sharedBack left right),
    left.drop (left.length - sharedBack left right), (front_core_back hleft).symm, ?_, ?_⟩
  · rw [take_sharedFront, drop_sharedBack]
    exact (front_core_back hright).symm
  · have hfront : (left.take (sharedFront left right)).length = sharedFront left right := by
      rw [List.length_take]
      omega
    have hback : (left.drop (left.length - sharedBack left right)).length
        = sharedBack left right := by
      rw [List.length_drop]
      omega
    have hcore := length_front_core hright
    rw [← take_sharedFront] at hcore
    rw [hfront, hback, length_front_core hleft, hcore]
    rfl

/-! ## The alignment -/

/-- An alignment can be followed step by step through the two lists. -/
theorem edits_align (left right : List α) : Edits 0 0 left right (align left right) := by
  obtain ⟨front, leftCore, rightCore, back, rfl, rfl, halign⟩ := exists_align_eq left right
  have hfront := edits_keep_all front 0 0
  have hcore := edits_walk (table leftCore rightCore) front.length 0 0 leftCore rightCore
  have hback := edits_keep_all back (front ++ leftCore).length (front ++ rightCore).length
  simp only [Nat.zero_add] at hfront
  rw [halign]
  refine (hfront.append ?_).append ?_
  · simpa only [Nat.zero_add, Nat.add_zero] using hcore
  · simpa only [Nat.zero_add] using hback

theorem isEditScript_align (left right : List α) : IsEditScript left right (align left right) :=
  (edits_align left right).isEditScript

theorem isGreatest_kept_align (left right : List α) :
    IsGreatest (commonLengths left right) (kept (align left right)) := by
  obtain ⟨front, leftCore, rightCore, back, rfl, rfl, halign⟩ := exists_align_eq left right
  have hcore := isGreatest_kept_walk front.length (fills_table leftCore rightCore)
  rw [halign, kept_append, kept_append, kept_keep_all, kept_keep_all]
  exact isGreatest_append_right back (isGreatest_append_left front hcore)

/-- **An alignment keeps as many items as can be kept and changes as few as can be changed.** It is
an edit script: its steps are about all items of the two lists in order, and what it keeps is equal.
No common subsequence of the lists is longer than what it keeps, and no edit script deletes and
inserts fewer items. -/
theorem align_isLongest (left right : List α) :
    IsEditScript left right (align left right) ∧
    IsGreatest {n | ∃ common : List α, common.Sublist left ∧ common.Sublist right ∧
      common.length = n} (kept (align left right)) ∧
    IsLeast {n | ∃ script, IsEditScript left right script ∧ changed script = n}
      (changed (align left right)) := by
  have halign := isEditScript_align left right
  have hkept := isGreatest_kept_align left right
  refine ⟨halign, hkept, ⟨_, halign, rfl⟩, ?_⟩
  rintro n ⟨script, hscript, rfl⟩
  -- kept items count on both sides, so a script that changes less would keep more
  have hle : kept script ≤ kept (align left right) := hkept.2 hscript.kept_mem
  have htotal := hscript.changed_add_kept
  have htotal' := halign.changed_add_kept
  omega

end Assay.Alignment
