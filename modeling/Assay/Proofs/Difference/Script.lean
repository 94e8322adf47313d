import Assay.Difference.Alignment
import Assay.Proofs.Difference.Subsequence
import Assay.Proofs.Indices
import Mathlib.Data.List.Range

/-!
# Edit scripts

An edit script goes through two lists in order: it keeps an item of the left list together with an
equal one of the right list, deletes an item of the left list, or inserts one of the right list.
This is said twice. `IsEditScript` looks at a finished script and its indices. `Edits` follows the
script step by step, so that scripts for parts of the lists can be put together.

What a script keeps is a common subsequence (`IsEditScript.kept_mem`), and all items that are not
kept are changes on one of the sides (`IsEditScript.changed_add_kept`).
-/

namespace Assay

/-! ## Steps -/

namespace EditStep

/-- The item of the left list that a step is about. -/
def left? : EditStep → Option Nat
  | .keep i _ | .delete i => some i
  | .insert _ => none

/-- The item of the right list that a step is about. -/
def right? : EditStep → Option Nat
  | .keep _ j | .insert j => some j
  | .delete _ => none

/-- Whether a step keeps an item. -/
def isKeep : EditStep → Bool
  | .keep _ _ => true
  | .delete _ | .insert _ => false

end EditStep

namespace Alignment

variable {α : Type} {left right left' right' : List α} {script script' : List EditStep} {i j : Nat}

/-- The number of items that a script keeps. -/
def kept (script : List EditStep) : Nat := script.countP EditStep.isKeep

/-- The number of items that a script deletes or inserts. -/
def changed (script : List EditStep) : Nat := script.countP fun step => !step.isKeep

@[simp] theorem kept_keep : kept (.keep i j :: script) = kept script + 1 :=
  List.countP_cons_of_pos rfl

@[simp] theorem kept_delete : kept (.delete i :: script) = kept script :=
  List.countP_cons_of_neg Bool.false_ne_true

@[simp] theorem kept_insert : kept (.insert j :: script) = kept script :=
  List.countP_cons_of_neg Bool.false_ne_true

theorem kept_append : kept (script ++ script') = kept script + kept script' := List.countP_append

/-- Every step keeps an item or changes one. -/
theorem kept_add_changed (script : List EditStep) :
    kept script + changed script = script.length := by
  rw [kept, changed, List.length_eq_countP_add_countP EditStep.isKeep]
  simp only [Bool.not_eq_true, Bool.decide_eq_false]

/-! ## Finished scripts -/

/-- A script for two lists: its steps are about all items of the two lists in order, and what it
keeps is equal. -/
structure IsEditScript (left right : List α) (script : List EditStep) : Prop where
  all_left : script.filterMap EditStep.left? = List.range left.length
  all_right : script.filterMap EditStep.right? = List.range right.length
  keep_equal : ∀ i j, .keep i j ∈ script → ∃ x, left[i]? = some x ∧ right[j]? = some x

/-- The items of one side that some steps are about. -/
def items (side : EditStep → Option Nat) (list : List α) (steps : List EditStep) : List α :=
  steps.filterMap fun step => (side step).bind fun i => list[i]?

/-- Some steps of a script are about some items of a side, in their order. -/
theorem items_filter_sublist {side : EditStep → Option Nat} {list : List α}
    (h : script.filterMap side = List.range list.length) (test : EditStep → Bool) :
    (items side list (script.filter test)).Sublist list := by
  have hall : items side list script = list := by
    rw [items, ← List.filterMap_filterMap, h, filterMap_range_getElem?]
  have hsub : (items side list (script.filter test)).Sublist (items side list script) :=
    List.filter_sublist.filterMap _
  rwa [hall] at hsub

/-- **What a script keeps is a common subsequence.** -/
theorem IsEditScript.kept_mem (h : IsEditScript left right script) :
    kept script ∈ commonLengths left right := by
  have hkeep : ∀ step ∈ script.filter EditStep.isKeep,
      ∃ x, (step.left?.bind fun i => left[i]?) = some x ∧
        (step.right?.bind fun j => right[j]?) = some x := by
    intro step hs
    obtain ⟨hmem, hk⟩ := List.mem_filter.mp hs
    cases step with
    | keep i j => exact h.keep_equal i j hmem
    | delete | insert => cases hk
  have hsame : items EditStep.left? left (script.filter EditStep.isKeep)
      = items EditStep.right? right (script.filter EditStep.isKeep) := by
    refine List.filterMap_congr ?_
    intro step hs
    obtain ⟨x, hl, hr⟩ := hkeep step hs
    rw [hl, hr]
  refine ⟨_, items_filter_sublist h.all_left EditStep.isKeep, ?_, ?_⟩
  · rw [hsame]
    exact items_filter_sublist h.all_right _
  · rw [items, List.length_filterMap_eq_countP, List.countP_eq_length.mpr, kept,
      List.countP_eq_length_filter]
    intro step hs
    obtain ⟨x, hl, _⟩ := hkeep step hs
    rw [hl]
    rfl

theorem length_filterMap_sides (script : List EditStep) :
    (script.filterMap EditStep.left?).length + (script.filterMap EditStep.right?).length
      = script.length + kept script := by
  induction script with
  | nil => rfl
  | cons step script ih =>
    cases step <;> simp [List.filterMap_cons, EditStep.left?, EditStep.right?] <;> omega

/-- Every item is kept, together with one of the other side, or changed. -/
theorem IsEditScript.changed_add_kept (h : IsEditScript left right script) :
    changed script + 2 * kept script = left.length + right.length := by
  have hsides := length_filterMap_sides script
  rw [h.all_left, h.all_right, List.length_range, List.length_range] at hsides
  have hsteps := kept_add_changed script
  omega

/-! ## Scripts step by step -/

/-- A script for two lists whose first items have the indices `i` and `j`. -/
inductive Edits : Nat → Nat → List α → List α → List EditStep → Prop where
  | done {i j : Nat} : Edits i j [] [] []
  | keep {i j : Nat} {left right : List α} {script : List EditStep} (x : α)
      (rest : Edits (i + 1) (j + 1) left right script) :
      Edits i j (x :: left) (x :: right) (.keep i j :: script)
  | delete {i j : Nat} {left right : List α} {script : List EditStep} (x : α)
      (rest : Edits (i + 1) j left right script) :
      Edits i j (x :: left) right (.delete i :: script)
  | insert {i j : Nat} {left right : List α} {script : List EditStep} (y : α)
      (rest : Edits i (j + 1) left right script) :
      Edits i j left (y :: right) (.insert j :: script)

namespace Edits

/-- Scripts for two parts of the lists are one script for both parts. -/
theorem append (h : Edits i j left right script)
    (h' : Edits (i + left.length) (j + right.length) left' right' script') :
    Edits i j (left ++ left') (right ++ right') (script ++ script') := by
  induction h with
  | done => exact h'
  | keep x _ ih =>
    refine .keep x (ih ?_)
    simpa only [List.length_cons, Nat.add_assoc, Nat.add_comm 1] using h'
  | delete x _ ih =>
    refine .delete x (ih ?_)
    simpa only [List.length_cons, Nat.add_assoc, Nat.add_comm 1] using h'
  | insert y _ ih =>
    refine .insert y (ih ?_)
    simpa only [List.length_cons, Nat.add_assoc, Nat.add_comm 1] using h'

theorem filterMap_left? (h : Edits i j left right script) :
    script.filterMap EditStep.left? = List.range' i left.length := by
  induction h with
  | done => rfl
  | keep _ _ ih | delete _ _ ih => exact congrArg (_ :: ·) ih
  | insert _ _ ih => exact ih

theorem filterMap_right? (h : Edits i j left right script) :
    script.filterMap EditStep.right? = List.range' j right.length := by
  induction h with
  | done => rfl
  | keep _ _ ih | insert _ _ ih => exact congrArg (_ :: ·) ih
  | delete _ _ ih => exact ih

/-- The items that a script keeps together are equal. -/
theorem getElem?_of_keep_mem (h : Edits i j left right script) {a b : Nat}
    (hmem : .keep a b ∈ script) :
    ∃ k l x, a = i + k ∧ b = j + l ∧ left[k]? = some x ∧ right[l]? = some x := by
  induction h with
  | done => cases hmem
  | keep x _ ih =>
    rcases List.mem_cons.mp hmem with he | hmem
    · cases he
      exact ⟨0, 0, x, rfl, rfl, rfl, rfl⟩
    · obtain ⟨k, l, y, rfl, rfl, hl, hr⟩ := ih hmem
      exact ⟨k + 1, l + 1, y, by omega, by omega, hl, hr⟩
  | delete x _ ih =>
    rcases List.mem_cons.mp hmem with he | hmem
    · cases he
    · obtain ⟨k, l, y, rfl, rfl, hl, hr⟩ := ih hmem
      exact ⟨k + 1, l, y, by omega, rfl, hl, hr⟩
  | insert x _ ih =>
    rcases List.mem_cons.mp hmem with he | hmem
    · cases he
    · obtain ⟨k, l, y, rfl, rfl, hl, hr⟩ := ih hmem
      exact ⟨k, l + 1, y, rfl, by omega, hl, hr⟩

/-- **A script that is followed step by step through two whole lists is an edit script.** -/
theorem isEditScript (h : Edits 0 0 left right script) : IsEditScript left right script where
  all_left := by rw [h.filterMap_left?, List.range_eq_range']
  all_right := by rw [h.filterMap_right?, List.range_eq_range']
  keep_equal := by
    intro i j hmem
    obtain ⟨k, l, x, rfl, rfl, hl, hr⟩ := h.getElem?_of_keep_mem hmem
    rw [Nat.zero_add, Nat.zero_add]
    exact ⟨x, hl, hr⟩

end Edits

/-! ## Scripts of one kind of step -/

/-- Keeping all items of a list. -/
theorem edits_keep_all (list : List α) (i j : Nat) :
    Edits i j list list ((List.range list.length).map fun k => .keep (i + k) (j + k)) := by
  induction list generalizing i j with
  | nil => exact .done
  | cons x list ih =>
    rw [List.length_cons, List.range_succ_eq_map, List.map_cons, List.map_map]
    refine .keep x ?_
    have hrest := ih (i + 1) (j + 1)
    simpa only [Function.comp_def, Nat.succ_eq_add_one, Nat.add_assoc, Nat.add_comm 1] using hrest

/-- Deleting all items of the left list. -/
theorem edits_delete_all (left : List α) (i j : Nat) :
    Edits i j left [] ((List.range left.length).map fun k => .delete (i + k)) := by
  induction left generalizing i with
  | nil => exact .done
  | cons x left ih =>
    rw [List.length_cons, List.range_succ_eq_map, List.map_cons, List.map_map]
    refine .delete x ?_
    have hrest := ih (i + 1)
    simpa only [Function.comp_def, Nat.succ_eq_add_one, Nat.add_assoc, Nat.add_comm 1] using hrest

/-- Inserting all items of the right list. -/
theorem edits_insert_all (right : List α) (i j : Nat) :
    Edits i j [] right ((List.range right.length).map fun k => .insert (j + k)) := by
  induction right generalizing j with
  | nil => exact .done
  | cons y right ih =>
    rw [List.length_cons, List.range_succ_eq_map, List.map_cons, List.map_map]
    refine .insert y ?_
    have hrest := ih (j + 1)
    simpa only [Function.comp_def, Nat.succ_eq_add_one, Nat.add_assoc, Nat.add_comm 1] using hrest

@[simp] theorem kept_keep_all (n : Nat) (a b : Nat → Nat) :
    kept ((List.range n).map fun k => .keep (a k) (b k)) = n := by
  simp [kept, Function.comp_def, EditStep.isKeep]

@[simp] theorem kept_delete_all (n : Nat) (a : Nat → Nat) :
    kept ((List.range n).map fun k => .delete (a k)) = 0 := by
  simp [kept, EditStep.isKeep]

@[simp] theorem kept_insert_all (n : Nat) (b : Nat → Nat) :
    kept ((List.range n).map fun k => .insert (b k)) = 0 := by
  simp [kept, EditStep.isKeep]

end Alignment

end Assay
