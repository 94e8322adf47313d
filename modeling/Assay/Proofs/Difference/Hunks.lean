import Assay.Difference.Report
import Assay.Proofs.Difference.Alignment
import Mathlib.Data.List.Chain

/-!
# Two texts in hunks

Two lists of lines that differ are cut into hunks: lines that are changed, and behind them lines
that both sides have. The two lists, and the blocks of a report with their line numbers, can be read
off the hunks (`text`, `blocksFrom`).

`group` goes through a script from its end, and what it gives back at every step are the blocks of
the hunks so far (`exists_hunks_of_edits`). So the blocks of two texts are those of some hunks
(`exists_hunks`), and whatever is said about blocks is said about hunks.
-/

namespace Assay.Difference

/-- The lines of the text that a change is in. -/
def sides (expected actual : List Line) : Change → List Line
  | .removed => expected
  | .added => actual

/-- Lines that are changed, and the lines behind them that are not. -/
structure Hunk where
  removed : List Line
  added : List Line
  same : List Line

namespace Hunk

/-- The changed lines of a side. -/
def changed (h : Hunk) : Change → List Line := sides h.removed h.added

/-- The lines of a side. -/
def lines (h : Hunk) (c : Change) : List Line := h.changed c ++ h.same

end Hunk

/-- The lines that hunks make up on a side. -/
def text (c : Change) (hunks : List Hunk) : List Line := hunks.flatMap (·.lines c)

/-- Lines as entries, with the numbers from `first` on. -/
def entriesFrom (c : Change) (first : Nat) (lines : List Line) : List Entry :=
  (lines.zipIdx first).map fun line => ⟨line.2, c, line.1.visible⟩

/-- The block of a hunk whose lines have the numbers from `first` on. -/
def Hunk.block (h : Hunk) (first : Change → Nat) : Block :=
  ⟨entriesFrom .removed (first .removed) h.removed, entriesFrom .added (first .added) h.added⟩

/-- The numbers of the lines behind a hunk. -/
def Hunk.next (h : Hunk) (first : Change → Nat) (c : Change) : Nat := first c + (h.lines c).length

/-- The blocks of hunks whose lines have the numbers from `first` on. -/
def blocksFrom (first : Change → Nat) : List Hunk → List Block
  | [] => []
  | h :: hunks => h.block first :: blocksFrom (h.next first) hunks

/-- Hunks that are apart: all have changed lines, and lines that are not changed lie between any
two. -/
structure Apart (hunks : List Hunk) : Prop where
  changed : ∀ h ∈ hunks, ∃ c, h.changed c ≠ []
  between : hunks.IsChain fun h _ => h.same ≠ []

/-! ## Grouping gives hunks -/

/-- The numbers of the lines with two indices. -/
def numbersAt (i j : Nat) : Change → Nat
  | .removed => i + 1
  | .added => j + 1

theorem entriesFrom_eq_nil_iff {c : Change} {first : Nat} {lines : List Line} :
    entriesFrom c first lines = [] ↔ lines = [] := by
  simp [entriesFrom]

/-- A block has lines if its hunk has changed lines. -/
theorem isEmpty_block {h : Hunk} {first : Change → Nat} :
    (h.block first).isEmpty = true ↔ ∀ c, h.changed c = [] := by
  constructor
  · intro hempty c
    simp only [Hunk.block, Block.isEmpty, Bool.and_eq_true, List.isEmpty_iff,
      entriesFrom_eq_nil_iff] at hempty
    cases c
    · exact hempty.1
    · exact hempty.2
  · intro hnone
    simp only [Hunk.block, Block.isEmpty, Bool.and_eq_true, List.isEmpty_iff,
      entriesFrom_eq_nil_iff]
    exact ⟨hnone .removed, hnone .added⟩

theorem exists_changed {h : Hunk} {first : Change → Nat}
    (hsome : ¬ (h.block first).isEmpty = true) : ∃ c, h.changed c ≠ [] := by
  by_contra hnone
  push Not at hnone
  exact hsome (isEmpty_block.mpr hnone)

/-- The first item of a rest of a list, and what is behind it. -/
theorem getD_and_drop_of_drop {α : Type} {l rest : List α} {i : Nat} {x : α} (default : α)
    (h : l.drop i = x :: rest) : l.getD i default = x ∧ l.drop (i + 1) = rest := by
  constructor
  · have hget := congrArg List.head? h
    rw [List.head?_drop, List.head?_cons] at hget
    rw [List.getD_eq_getElem?_getD, hget, Option.getD_some]
  · rw [← List.drop_drop, h, List.drop_one, List.tail_cons]

theorem next_nil (first : Change → Nat) : (Hunk.mk [] [] []).next first = first := by
  funext c
  cases c <;> rfl

/-- The numbers behind a line more are those behind the rest, counted from one line on. -/
theorem next_cons_same (i j : Nat) (line : Line) (lines : List Line) :
    (Hunk.mk [] [] (line :: lines)).next (numbersAt i j)
      = (Hunk.mk [] [] lines).next (numbersAt (i + 1) (j + 1)) := by
  funext c
  cases c <;> exact Nat.add_right_comm _ lines.length 1

theorem next_cons_removed (h : Hunk) (i j : Nat) (line : Line) :
    Hunk.next { h with removed := line :: h.removed } (numbersAt i j)
      = h.next (numbersAt (i + 1) j) := by
  funext c
  cases c with
  | removed => exact Nat.add_right_comm _ (h.lines .removed).length 1
  | added => rfl

theorem next_cons_added (h : Hunk) (i j : Nat) (line : Line) :
    Hunk.next { h with added := line :: h.added } (numbersAt i j)
      = h.next (numbersAt i (j + 1)) := by
  funext c
  cases c with
  | removed => rfl
  | added => exact Nat.add_right_comm _ (h.lines .added).length 1

theorem text_nil (c : Change) : text c [] = [] := rfl

theorem text_cons (c : Change) (h : Hunk) (hunks : List Hunk) :
    text c (h :: hunks) = h.lines c ++ text c hunks := rfl

variable {expected actual left right : List Line} {i j : Nat} {script : List EditStep}

/-- What `group` gives for the rest of a script is the block of a hunk, which need not have changed
lines, and the blocks of the hunks behind it. -/
theorem exists_hunks_of_edits (h : Alignment.Edits i j left right script)
    (hleft : expected.drop i = left) (hright : actual.drop j = right) :
    ∃ front hunks, left = text .removed (front :: hunks) ∧ right = text .added (front :: hunks) ∧
      group expected actual script = (front.block (numbersAt i j),
        blocksFrom (front.next (numbersAt i j)) hunks) ∧
      (∀ h ∈ hunks, ∃ c, h.changed c ≠ []) ∧
      (front :: hunks).IsChain fun h _ => h.same ≠ [] := by
  induction h with
  | done => exact ⟨⟨[], [], []⟩, [], rfl, rfl, rfl, nofun, .singleton _⟩
  | @keep i j _ _ script line _ ih =>
    obtain ⟨front, hunks, rfl, rfl, hgroup, hchanged, hbetween⟩ :=
      ih (getD_and_drop_of_drop default hleft).2 (getD_and_drop_of_drop default hright).2
    have hkeep : group expected actual (.keep i j :: script) = (⟨[], []⟩,
        if (front.block (numbersAt (i + 1) (j + 1))).isEmpty
        then blocksFrom (front.next (numbersAt (i + 1) (j + 1))) hunks
        else blocksFrom (numbersAt (i + 1) (j + 1)) (front :: hunks)) := by
      rw [group, hgroup]
      rfl
    by_cases hempty : (front.block (numbersAt (i + 1) (j + 1))).isEmpty = true
    · -- the kept line goes in front of unchanged lines
      obtain ⟨removed, added, same⟩ := front
      have hnone := isEmpty_block.mp hempty
      obtain rfl : removed = [] := hnone .removed
      obtain rfl : added = [] := hnone .added
      refine ⟨⟨[], [], line :: same⟩, hunks, rfl, rfl, ?_, hchanged, ?_⟩
      · rw [hkeep, if_pos hempty, next_cons_same]
        rfl
      · exact List.isChain_cons.mpr ⟨fun _ _ => List.cons_ne_nil _ _, hbetween.tail⟩
    · -- the kept line is alone in front of a block
      refine ⟨⟨[], [], [line]⟩, front :: hunks, rfl, rfl, ?_, ?_, .cons_cons (by simp) hbetween⟩
      · rw [hkeep, if_neg hempty, next_cons_same, next_nil]
        rfl
      · exact List.forall_mem_cons.mpr ⟨exists_changed hempty, hchanged⟩
  | @delete i j _ _ script line _ ih =>
    obtain ⟨hline, hrest⟩ := getD_and_drop_of_drop default hleft
    obtain ⟨front, hunks, rfl, rfl, hgroup, hchanged, hbetween⟩ := ih hrest hright
    have hdelete : group expected actual (.delete i :: script)
        = ((front.block (numbersAt (i + 1) j)).consRemoved (removedEntry expected i),
          blocksFrom (front.next (numbersAt (i + 1) j)) hunks) := by
      rw [group, hgroup]
    refine ⟨{ front with removed := line :: front.removed }, hunks, rfl, rfl, ?_, hchanged, ?_⟩
    · rw [hdelete, removedEntry, hline, next_cons_removed]
      rfl
    · exact List.isChain_cons.mpr (List.isChain_cons.mp hbetween)
  | @insert i j _ _ script line _ ih =>
    obtain ⟨hline, hrest⟩ := getD_and_drop_of_drop default hright
    obtain ⟨front, hunks, rfl, rfl, hgroup, hchanged, hbetween⟩ := ih hleft hrest
    have hinsert : group expected actual (.insert j :: script)
        = ((front.block (numbersAt i (j + 1))).consAdded (addedEntry actual j),
          blocksFrom (front.next (numbersAt i (j + 1))) hunks) := by
      rw [group, hgroup]
    refine ⟨{ front with added := line :: front.added }, hunks, rfl, rfl, ?_, hchanged, ?_⟩
    · rw [hinsert, addedEntry, hline, next_cons_added]
      rfl
    · exact List.isChain_cons.mpr (List.isChain_cons.mp hbetween)

/-- **The blocks of two texts are the blocks of hunks that are apart, behind lines that the texts
share.** -/
theorem exists_hunks (actual expected : Text) : ∃ front hunks, Apart hunks ∧
    (∀ c, sides (Line.split expected) (Line.split actual) c = front ++ text c hunks) ∧
    blocks actual expected = blocksFrom (fun _ => front.length + 1) hunks := by
  obtain ⟨first, hunks, hleft, hright, hgroup, hchanged, hbetween⟩ :=
    exists_hunks_of_edits (Alignment.edits_align (Line.split expected) (Line.split actual)) rfl rfl
  have hsides (c : Change) : sides (Line.split expected) (Line.split actual) c
      = text c (first :: hunks) := by
    cases c
    · exact hleft
    · exact hright
  by_cases hempty : (first.block (numbersAt 0 0)).isEmpty = true
  · refine ⟨first.same, hunks, ⟨hchanged, hbetween.tail⟩, ?_, ?_⟩
    · intro c
      rw [hsides, text_cons, Hunk.lines, isEmpty_block.mp hempty c, List.nil_append]
    · have hnext : first.next (numbersAt 0 0) = fun _ => first.same.length + 1 := by
        funext c
        rw [Hunk.next, Hunk.lines, isEmpty_block.mp hempty c, List.nil_append, Nat.add_comm]
        cases c <;> rfl
      rw [blocks, blocksOf, hgroup, ← hnext]
      exact if_pos hempty
  · refine ⟨[], first :: hunks, ⟨?_, hbetween⟩, hsides, ?_⟩
    · exact List.forall_mem_cons.mpr ⟨exists_changed hempty, hchanged⟩
    · have hfirst : numbersAt 0 0 = fun _ => ([] : List Line).length + 1 := by
        funext c
        cases c <;> rfl
      rw [blocks, blocksOf, hgroup, ← hfirst]
      exact if_neg hempty

end Assay.Difference
