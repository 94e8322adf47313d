import Assay.Proofs.Matching.Placement

/-!
# Trying all seekers in turn

`extendAll` is what an assignment does to the set of those who own something, said without items: a
seeker joins if it can be placed together with all who joined before. Nobody who joined leaves, and
a seeker that was turned away could not join later either. So the set that is placed in the end is
as large as possible (`Owners.Along.card_le_extendAll`), among the first seekers just as among all
of them (`extendAll_range_filter`).
-/

namespace Assay.Matching

variable {edges : Nat → List Nat} {owners : Owners} {items seeker : Nat} {s : Finset Nat}
  {seekers : List Nat}

open Classical in
/-- The set with one more seeker, if it can be placed with all of them. -/
noncomputable def extend (edges : Nat → List Nat) (s : Finset Nat) (seeker : Nat) : Finset Nat :=
  if Placeable edges (insert seeker s) then insert seeker s else s

/-- The set after each of the seekers has tried to join in turn. -/
noncomputable def extendAll (edges : Nat → List Nat) (s : Finset Nat) (seekers : List Nat) :
    Finset Nat :=
  seekers.foldl (extend edges) s

theorem extendAll_cons :
    extendAll edges s (seeker :: seekers) = extendAll edges (extend edges s seeker) seekers := rfl

theorem extendAll_append {more : List Nat} :
    extendAll edges s (seekers ++ more) = extendAll edges (extendAll edges s seekers) more :=
  List.foldl_append

/-! ## Who joins -/

theorem subset_extend : s ⊆ extend edges s seeker := by
  unfold extend
  split
  · exact Finset.subset_insert _ _
  · exact Finset.Subset.refl _

theorem subset_extendAll : s ⊆ extendAll edges s seekers := by
  induction seekers generalizing s with
  | nil => exact Finset.Subset.refl _
  | cons seeker seekers ih => exact subset_extend.trans ih

theorem mem_of_mem_extend {i : Nat} (h : i ∈ extend edges s seeker) : i = seeker ∨ i ∈ s := by
  unfold extend at h
  split at h
  · exact Finset.mem_insert.mp h
  · exact Or.inr h

theorem mem_of_mem_extendAll {i : Nat} (h : i ∈ extendAll edges s seekers) :
    i ∈ s ∨ i ∈ seekers := by
  induction seekers generalizing s with
  | nil => exact Or.inl h
  | cons seeker seekers ih =>
    rcases ih h with hi | hi
    · rcases mem_of_mem_extend hi with rfl | hi
      · exact Or.inr List.mem_cons_self
      · exact Or.inl hi
    · exact Or.inr (List.mem_cons_of_mem _ hi)

/-- **A seeker that was turned away cannot be placed with those who have joined in the end.** -/
theorem not_placeable_of_notMem_extendAll {i : Nat} (hi : i ∈ seekers)
    (hn : i ∉ extendAll edges s seekers) :
    ¬ Placeable edges (insert i (extendAll edges s seekers)) := by
  induction seekers generalizing s with
  | nil => cases hi
  | cons seeker seekers ih =>
    rw [extendAll_cons] at hn ⊢
    rcases List.mem_cons.mp hi with rfl | hi
    · intro hp
      have hearly : Placeable edges (insert i s) :=
        hp.mono (Finset.insert_subset_insert _ (subset_extend.trans subset_extendAll))
      refine hn (subset_extendAll ?_)
      rw [extend, if_pos hearly]
      exact Finset.mem_insert_self _ _
    · exact ih hi hn

/-- Who joins depends only on which sets can be placed. -/
theorem extendAll_congr {edges' : Nat → List Nat}
    (h : ∀ s, Placeable edges s ↔ Placeable edges' s) :
    extendAll edges s seekers = extendAll edges' s seekers := by
  have hext : extend edges = extend edges' := by
    funext s seeker
    by_cases hp : Placeable edges (insert seeker s)
    · rw [extend, extend, if_pos hp, if_pos ((h _).mp hp)]
    · rw [extend, extend, if_neg hp, if_neg (fun hq => hp ((h _).mpr hq))]
  rw [extendAll, extendAll, hext]

/-- Of the first seekers the same ones join whether or not others try after them. -/
theorem extendAll_range_filter {first count : Nat} (h : first ≤ count) :
    (extendAll edges ∅ (List.range count)).filter (· < first)
      = extendAll edges ∅ (List.range first) := by
  obtain ⟨others, rfl⟩ := Nat.exists_eq_add_of_le h
  rw [List.range_add, extendAll_append]
  ext i
  rw [Finset.mem_filter]
  constructor
  · rintro ⟨hi, hlt⟩
    rcases mem_of_mem_extendAll hi with hi | hi
    · exact hi
    · obtain ⟨j, _, rfl⟩ := List.mem_map.mp hi
      omega
  · intro hi
    rcases mem_of_mem_extendAll hi with hn | hr
    · exact absurd hn (Finset.notMem_empty _)
    · exact ⟨subset_extendAll hi, List.mem_range.mp hr⟩

/-! ## What an assignment does -/

section Assign

variable (hlt : ∀ {seeker item}, item ∈ edges seeker → item < items)
include hlt

/-- One attempt. -/
theorem Owners.Along.assignOne (h : owners.Along edges []) (hs : seeker ∉ owners.seekers) :
    (assignOne edges items owners seeker).Along edges [] ∧
      (assignOne edges items owners seeker).seekers = extend edges owners.seekers seeker := by
  unfold Matching.assignOne
  cases ha : augment edges owners items seeker [] with
  | mk found after =>
    cases found with
    | none =>
      refine ⟨h, ?_⟩
      rw [extend, if_neg (h.not_placeable_of_augment_none hlt hs ha)]
      rfl
    | some moved =>
      obtain ⟨hm, hseekers⟩ := h.augment_some hs ha
      refine ⟨hm, ?_⟩
      rw [extend, if_pos (hseekers ▸ hm.placeable)]
      exact hseekers

/-- **Trying seekers in turn keeps everyone at one item, and those who own something in the end are
the ones who could join.** -/
theorem Owners.Along.assignAll (h : owners.Along edges []) (hnodup : seekers.Nodup)
    (hnew : ∀ i ∈ seekers, i ∉ owners.seekers) :
    (assignAll edges items owners seekers).Along edges [] ∧
      (assignAll edges items owners seekers).seekers = extendAll edges owners.seekers seekers := by
  induction seekers generalizing owners with
  | nil => exact ⟨h, rfl⟩
  | cons seeker seekers ih =>
    rw [List.nodup_cons] at hnodup
    obtain ⟨hone, hseekers⟩ := h.assignOne hlt (hnew seeker List.mem_cons_self)
    have hothers : ∀ i ∈ seekers, i ∉ (Matching.assignOne edges items owners seeker).seekers := by
      intro i hi hm
      rw [hseekers] at hm
      rcases mem_of_mem_extend hm with rfl | hm
      · exact hnodup.1 hi
      · exact hnew i (List.mem_cons_of_mem _ hi) hm
    rw [extendAll_cons, ← hseekers]
    exact ih hone hnodup.2 hothers

/-- **No set among the owners and the seekers that can be placed is larger than the one that is
placed in the end.** -/
theorem Owners.Along.card_le_extendAll (h : owners.Along edges []) (hnodup : seekers.Nodup)
    (hnew : ∀ i ∈ seekers, i ∉ owners.seekers) (hs : Placeable edges s)
    (hmem : ∀ i ∈ s, i ∈ owners.seekers ∨ i ∈ seekers) :
    s.card ≤ (extendAll edges owners.seekers seekers).card := by
  obtain ⟨halong, hseekers⟩ := h.assignAll hlt hnodup hnew
  rw [← hseekers]
  refine halong.card_le_of_maximal hlt hs ?_
  intro i hi hn
  rw [hseekers] at hn ⊢
  rcases hmem i hi with hown | hseek
  · exact absurd (subset_extendAll hown) hn
  · exact not_placeable_of_notMem_extendAll hseek hn

end Assign

end Assay.Matching
