import Assay.Matching.Assignment

/-!
# Alternating paths

A seeker gets an item along an alternating path: it takes an item, whose owner takes another one,
and so on until an item is free. `Reroutes` says what such a path does to the owners, without the
search for it. Two facts tie the two together.

* `augment_some` — owners that the search returns come from a path that avoids the items seen
  before.
* `Reroutes.along` — a path keeps every owner at one item, along an edge, and adds the seeker to
  those who own something.
-/

namespace Assay.Matching

variable {edges : Nat → List Nat} {owners moved : Owners} {seeker depth : Nat}
  {avoid seen after : List Nat}

/-! ## Owners along edges -/

/-- Outside the items to avoid, everyone owns at most one item, and one that they can take. -/
structure Owners.Along (edges : Nat → List Nat) (avoid : List Nat) (owners : Owners) : Prop where
  edge : ∀ {item seeker}, item ∉ avoid → owners.owner? item = some seeker → item ∈ edges seeker
  single : ∀ {item other seeker}, item ∉ avoid → other ∉ avoid →
    owners.owner? item = some seeker → owners.owner? other = some seeker → item = other

theorem Owners.along_empty (edges : Nat → List Nat) : Owners.empty.Along edges [] where
  edge := by simp
  single := by simp

theorem Owners.Along.avoiding {more : List Nat} (h : owners.Along edges avoid)
    (hsub : avoid ⊆ more) : owners.Along edges more where
  edge hi ho := h.edge (fun hm => hi (hsub hm)) ho
  single hi hj ho hp := h.single (fun hm => hi (hsub hm)) (fun hm => hj (hsub hm)) ho hp

/-! ## Paths -/

/-- What a path does: the seeker takes an item that is free, or one whose owner is moved first,
and no item to avoid is visited. -/
inductive Reroutes (edges : Nat → List Nat) (owners : Owners) : List Nat → Nat → Owners → Prop where
  | take {avoid : List Nat} {seeker item : Nat} (fresh : item ∉ avoid)
      (edge : item ∈ edges seeker) (free : owners.owner? item = none) :
      Reroutes edges owners avoid seeker (owners.give item seeker)
  | move {avoid : List Nat} {seeker item owner : Nat} {moved : Owners} (fresh : item ∉ avoid)
      (edge : item ∈ edges seeker) (owned : owners.owner? item = some owner)
      (rest : Reroutes edges owners (item :: avoid) owner moved) :
      Reroutes edges owners avoid seeker (moved.give item seeker)

/-- A path that avoids more items avoids fewer. -/
theorem Reroutes.avoiding (h : Reroutes edges owners after seeker moved) (hsub : avoid ⊆ after) :
    Reroutes edges owners avoid seeker moved := by
  induction h generalizing avoid with
  | take fresh edge free => exact Reroutes.take (fun hm => fresh (hsub hm)) edge free
  | move fresh edge owned _ ih =>
    exact Reroutes.move (fun hm => fresh (hsub hm)) edge owned (ih (List.cons_subset_cons _ hsub))

/-- Whether a seeker owns an item outside of those to avoid. -/
def Owners.Holds (owners : Owners) (avoid : List Nat) (seeker : Nat) : Prop :=
  ∃ item, item ∉ avoid ∧ owners.owner? item = some seeker

/-- The owner of an item owns nothing else, so nothing outside the items to avoid once the item is
one of them. -/
theorem Owners.Along.not_holds_cons {item : Nat} (h : owners.Along edges avoid)
    (hi : item ∉ avoid) (ho : owners.owner? item = some seeker) :
    ¬ owners.Holds (item :: avoid) seeker := by
  rintro ⟨other, hother, howner⟩
  rw [List.mem_cons, not_or] at hother
  exact hother.1 (h.single hother.2 hi howner ho)

/-- **A path adds the seeker to those who own something and takes nobody away.** -/
theorem Reroutes.holds_iff (h : Reroutes edges owners avoid seeker moved)
    (ha : owners.Along edges avoid) {other : Nat} :
    moved.Holds avoid other ↔ other = seeker ∨ owners.Holds avoid other := by
  induction h generalizing other with
  | @take avoid seeker item fresh edge free =>
    constructor
    · rintro ⟨i, hi, ho⟩
      by_cases he : i = item
      · rw [he, Owners.owner?_give_same] at ho
        exact Or.inl (Option.some.inj ho).symm
      · rw [Owners.owner?_give_other _ _ he] at ho
        exact Or.inr ⟨i, hi, ho⟩
    · rintro (rfl | ⟨i, hi, ho⟩)
      · exact ⟨item, fresh, Owners.owner?_give_same _ _ _⟩
      · have he : i ≠ item := by
          rintro rfl
          rw [free] at ho
          cases ho
        exact ⟨i, hi, by rw [Owners.owner?_give_other _ _ he]; exact ho⟩
  | @move avoid seeker item owner moved fresh edge owned rest ih =>
    have hcons := @ih (ha.avoiding (List.subset_cons_self _ _))
    constructor
    · rintro ⟨i, hi, ho⟩
      by_cases he : i = item
      · rw [he, Owners.owner?_give_same] at ho
        exact Or.inl (Option.some.inj ho).symm
      · rw [Owners.owner?_give_other _ _ he] at ho
        rcases hcons.mp ⟨i, by simp [he, hi], ho⟩ with rfl | ⟨j, hj, hoj⟩
        · exact Or.inr ⟨item, fresh, owned⟩
        · exact Or.inr ⟨j, fun hm => hj (List.mem_cons_of_mem _ hm), hoj⟩
    · -- whoever owned the item that is taken has another one at the end of the path
      have hback {j : Nat} (hj : moved.Holds (item :: avoid) j) :
          (moved.give item seeker).Holds avoid j := by
        obtain ⟨i, hi, ho⟩ := hj
        rw [List.mem_cons, not_or] at hi
        exact ⟨i, hi.2, by rw [Owners.owner?_give_other _ _ hi.1]; exact ho⟩
      rintro (rfl | ⟨i, hi, ho⟩)
      · exact ⟨item, fresh, Owners.owner?_give_same _ _ _⟩
      · by_cases he : i = item
        · have howner : other = owner := Option.some.inj (by rw [← ho, he, owned])
          exact hback (hcons.mpr (Or.inl howner))
        · exact hback (hcons.mpr (Or.inr ⟨i, by simp [he, hi], ho⟩))

theorem Owners.Holds.of_avoiding {more : List Nat} (h : owners.Holds more seeker)
    (hsub : avoid ⊆ more) : owners.Holds avoid seeker := by
  obtain ⟨item, hi, ho⟩ := h
  exact ⟨item, fun hm => hi (hsub hm), ho⟩

/-- Giving an item to a seeker that owns nothing else. -/
theorem Owners.Along.give {item : Nat} (h : owners.Along edges (item :: avoid))
    (edge : item ∈ edges seeker) (hs : ¬ owners.Holds (item :: avoid) seeker) :
    (owners.give item seeker).Along edges avoid where
  edge := by
    intro i j hi ho
    by_cases he : i = item
    · rw [he, Owners.owner?_give_same] at ho
      cases ho
      rw [he]
      exact edge
    · rw [Owners.owner?_give_other _ _ he] at ho
      exact h.edge (by simp [he, hi]) ho
  single := by
    have hnew {i j : Nat} (he : i ≠ item) (hi : i ∉ avoid)
        (ho : owners.owner? i = some j) : j ≠ seeker := by
      rintro rfl
      exact hs ⟨i, by simp [he, hi], ho⟩
    intro i k j hi hk ho hp
    by_cases hei : i = item
    · by_cases hek : k = item
      · rw [hei, hek]
      · rw [hei, Owners.owner?_give_same] at ho
        rw [Owners.owner?_give_other _ _ hek] at hp
        exact absurd (Option.some.inj ho).symm (hnew hek hk hp)
    · rw [Owners.owner?_give_other _ _ hei] at ho
      by_cases hek : k = item
      · rw [hek, Owners.owner?_give_same] at hp
        exact absurd (Option.some.inj hp).symm (hnew hei hi ho)
      · rw [Owners.owner?_give_other _ _ hek] at hp
        exact h.single (by simp [hei, hi]) (by simp [hek, hk]) ho hp

/-- **A path of a seeker that owns nothing keeps everyone at one item, along an edge.** -/
theorem Reroutes.along (h : Reroutes edges owners avoid seeker moved)
    (ha : owners.Along edges avoid) (hs : ¬ owners.Holds avoid seeker) :
    moved.Along edges avoid := by
  induction h with
  | @take avoid seeker item fresh edge free =>
    have hcons := ha.avoiding (List.subset_cons_self item avoid)
    exact hcons.give edge (fun hh => hs (hh.of_avoiding (List.subset_cons_self _ _)))
  | @move avoid seeker item owner moved fresh edge owned rest ih =>
    have hcons := ha.avoiding (List.subset_cons_self item avoid)
    refine (ih hcons (ha.not_holds_cons fresh owned)).give edge ?_
    intro hh
    rcases (rest.holds_iff hcons).mp hh with rfl | hh
    · exact hs ⟨item, fresh, owned⟩
    · exact hs (hh.of_avoiding (List.subset_cons_self _ _))

/-! ## What the search finds -/

section Choice

variable {move : Nat → List Nat → Option Owners × List Nat} {choices : List Nat}

/-- Seen items stay seen while the choices are gone through. -/
theorem firstChoice_grows (hmove : ∀ owner seen, seen ⊆ (move owner seen).2) :
    seen ⊆ (firstChoice owners seeker move choices seen).2 := by
  induction choices generalizing seen with
  | nil => exact List.Subset.refl _
  | cons item choices ih =>
    rw [firstChoice]
    split
    · exact ih
    · have hitem : seen ⊆ item :: seen := List.subset_cons_self _ _
      split
      · exact hitem
      · next owner _ =>
        have hm := hmove owner (item :: seen)
        split
        · next heq => rw [heq] at hm; exact List.Subset.trans hitem hm
        · next heq => rw [heq] at hm; exact List.Subset.trans (List.Subset.trans hitem hm) ih

/-- If moves are paths, a choice is one. -/
theorem firstChoice_some (hgrows : ∀ owner seen, seen ⊆ (move owner seen).2)
    (hmove : ∀ {owner seen moved after}, move owner seen = (some moved, after) →
      Reroutes edges owners seen owner moved)
    (hsub : choices ⊆ edges seeker)
    (h : firstChoice owners seeker move choices seen = (some moved, after)) :
    Reroutes edges owners seen seeker moved := by
  induction choices generalizing seen with
  | nil => simp [firstChoice] at h
  | cons item choices ih =>
    rw [List.cons_subset] at hsub
    rw [firstChoice] at h
    split at h
    · exact ih hsub.2 h
    · next hfresh =>
      split at h
      · next hfree =>
        cases h
        exact Reroutes.take hfresh hsub.1 hfree
      · next owner howner =>
        split at h
        · next heq =>
          cases h
          exact Reroutes.move hfresh hsub.1 howner (hmove heq)
        · next heq =>
          have hm := hgrows owner (item :: seen)
          rw [heq] at hm
          exact (ih hsub.2 h).avoiding (List.Subset.trans (List.subset_cons_self _ _) hm)

end Choice

/-- Seen items stay seen. -/
theorem augment_grows : seen ⊆ (augment edges owners depth seeker seen).2 := by
  induction depth generalizing seeker seen with
  | zero => exact List.Subset.refl _
  | succ depth ih => exact firstChoice_grows (fun _ _ => ih)

/-- **Owners that the search returns come from a path that avoids the items seen before.** -/
theorem augment_some (h : augment edges owners depth seeker seen = (some moved, after)) :
    Reroutes edges owners seen seeker moved := by
  induction depth generalizing seeker seen moved after with
  | zero => cases h
  | succ depth ih =>
    exact firstChoice_some (fun _ _ => augment_grows) ih (List.Subset.refl _) h

end Assay.Matching
