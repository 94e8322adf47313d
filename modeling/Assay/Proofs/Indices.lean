import Mathlib.Data.List.Basic

/-!
# Elements by index

Looking up the elements of a list by their indices, one after the other or only some of them.
-/

namespace Assay

variable {α : Type}

theorem filterMap_range_getElem? (l : List α) :
    ((List.range l.length).filterMap fun i => l[i]?) = l := by
  induction l with
  | nil => rfl
  | cons x l ih =>
    rw [List.length_cons, List.range_succ_eq_map, List.filterMap_cons, List.filterMap_map]
    exact congrArg (x :: ·) ih

/-- The elements of a list with some indices. -/
def pick (l : List α) (indices : List Nat) : List α := indices.filterMap fun i => l[i]?

theorem pick_append (l : List α) (is js : List Nat) : pick l (is ++ js) = pick l is ++ pick l js :=
  List.filterMap_append

theorem pick_range (l : List α) : pick l (List.range l.length) = l := filterMap_range_getElem? l

theorem mem_pick {l : List α} {indices : List Nat} {a : α} :
    a ∈ pick l indices ↔ ∃ i ∈ indices, l[i]? = some a :=
  List.mem_filterMap

theorem pick_perm {l : List α} {is js : List Nat} (h : is.Perm js) :
    (pick l is).Perm (pick l js) :=
  h.filterMap _

/-- Indices in ascending order pick a part of the list in its order. -/
theorem pick_sublist {l : List α} {indices : List Nat}
    (h : indices.Sublist (List.range l.length)) : (pick l indices).Sublist l := by
  have hpicked := h.filterMap fun i => l[i]?
  rwa [filterMap_range_getElem?] at hpicked

/-- The index at which a search stops. -/
theorem findIdx?_eq_some_iff_getElem? {test : α → Bool} {l : List α} {i : Nat} :
    l.findIdx? test = some i ↔
      ∃ a, l[i]? = some a ∧ test a = true ∧ ∀ j b, j < i → l[j]? = some b → ¬ test b = true := by
  rw [List.findIdx?_eq_some_iff_getElem]
  constructor
  · rintro ⟨hi, htest, hbefore⟩
    refine ⟨l[i], List.getElem?_eq_getElem hi, htest, fun j b hj hb => ?_⟩
    obtain ⟨hlt, rfl⟩ := List.getElem?_eq_some_iff.mp hb
    exact hbefore j hj
  · rintro ⟨a, ha, htest, hbefore⟩
    obtain ⟨hi, rfl⟩ := List.getElem?_eq_some_iff.mp ha
    refine ⟨hi, htest, fun j hj => ?_⟩
    exact hbefore j l[j] hj (List.getElem?_eq_getElem (Nat.lt_trans hj hi))

end Assay
