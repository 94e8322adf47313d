import Assay.Proofs.Matching.Search
import Mathlib.Data.Finset.Union
import Mathlib.Data.Set.Function

/-!
# Placing sets of seekers

A set of seekers can be placed if each of them can have an item of its own. Trying the seekers one
by one finds out which set is placed in the end, without looking at the items: a seeker joins the
set if the larger set can be placed too (`assignAll_seekers`). Which seekers own something depends
on nothing else, whatever paths were taken.

The set is as large as a set that can be placed gets (`Owners.Along.card_le_of_maximal`).

## Closed sets

The argument for both is one count. Call a set of items closed if each of them has an owner, who can
take nothing outside of the set. Owners take at most one item each, so a closed set has as many
owners as items. If all that the seekers without an item can take is in a closed set, then no set
that can be placed is larger than the set of owners: whoever is placed inside the closed set can
stand for the owner of that item, and all others are owners outside of it.
-/

namespace Assay.Matching

variable {edges : Nat → List Nat} {owners moved : Owners} {items seeker : Nat} {s : Finset Nat}

/-! ## Sets that can be placed -/

/-- Every seeker of the set can have an item of its own. -/
def Placeable (edges : Nat → List Nat) (s : Finset Nat) : Prop :=
  ∃ place : Nat → Nat, Set.InjOn place s ∧ ∀ i ∈ s, place i ∈ edges i

/-- A set can be placed if each of its seekers has an item, and no item is one of two seekers. -/
theorem placeable_of_exists (has : Nat → Nat → Prop)
    (hone : ∀ {i j item}, has i item → has j item → i = j)
    (h : ∀ i ∈ s, ∃ item ∈ edges i, has i item) : Placeable edges s := by
  have hitem : ∀ i, ∃ item, i ∈ s → item ∈ edges i ∧ has i item := by
    intro i
    by_cases hi : i ∈ s
    · obtain ⟨item, hedge, hhas⟩ := h i hi
      exact ⟨item, fun _ => ⟨hedge, hhas⟩⟩
    · exact ⟨0, fun hc => absurd hc hi⟩
  choose place hplace using hitem
  refine ⟨place, ?_, fun i hi => (hplace i hi).1⟩
  intro i hi j hj he
  have hj' := (hplace j hj).2
  rw [← he] at hj'
  exact hone (hplace i hi).2 hj'

theorem Placeable.mono {larger : Finset Nat} (h : Placeable edges larger) (hsub : s ⊆ larger) :
    Placeable edges s := by
  obtain ⟨place, hinj, hedge⟩ := h
  exact ⟨place, hinj.mono hsub, fun i hi => hedge i (hsub hi)⟩

/-- A set can still be placed when the items get other numbers. -/
theorem Placeable.renumber {edges' : Nat → List Nat} {number : Nat → Nat} (h : Placeable edges s)
    (hinj : Set.InjOn number {item | ∃ i ∈ s, item ∈ edges i})
    (hedge : ∀ i ∈ s, ∀ item ∈ edges i, number item ∈ edges' i) : Placeable edges' s := by
  obtain ⟨place, hplace, hmem⟩ := h
  refine ⟨number ∘ place, ?_, fun i hi => hedge i hi _ (hmem i hi)⟩
  intro i hi j hj he
  exact hplace hi hj (hinj ⟨i, hi, hmem i hi⟩ ⟨j, hj, hmem j hj⟩ he)

/-! ## Seekers that own something -/

/-- The seekers that own an item. -/
def Owners.seekers (owners : Owners) : Finset Nat :=
  (owners.pairs.filterMap fun pair => owners.owner? pair.1).toFinset

theorem Owners.mem_seekers :
    seeker ∈ owners.seekers ↔ ∃ item, owners.owner? item = some seeker := by
  simp only [Owners.seekers, List.mem_toFinset, List.mem_filterMap]
  constructor
  · rintro ⟨pair, _, ho⟩
    exact ⟨pair.1, ho⟩
  · rintro ⟨item, ho⟩
    obtain ⟨front, back, hp, _⟩ := List.lookup_eq_some_iff.mp ho
    exact ⟨(item, seeker), by simp [hp], ho⟩

theorem Owners.holds_nil_iff : owners.Holds [] seeker ↔ seeker ∈ owners.seekers := by
  simp [Owners.Holds, Owners.mem_seekers]

@[simp] theorem Owners.seekers_empty : Owners.empty.seekers = ∅ := rfl

/-- Owners are placed on their items. -/
theorem Owners.placeable_of_owned (owners : Owners)
    (h : ∀ i ∈ s, ∃ item ∈ edges i, owners.owner? item = some i) : Placeable edges s := by
  refine placeable_of_exists (fun i item => owners.owner? item = some i) ?_ h
  intro i j item hi hj
  exact Option.some.inj (hi.symm.trans hj)

theorem Owners.Along.placeable (h : owners.Along edges []) : Placeable edges owners.seekers := by
  refine owners.placeable_of_owned ?_
  intro i hi
  obtain ⟨item, ho⟩ := Owners.mem_seekers.mp hi
  exact ⟨item, h.edge List.not_mem_nil ho, ho⟩

/-- A path of a seeker that owns nothing adds it to the owners and keeps everyone at one item. -/
theorem Reroutes.augments (h : Reroutes edges owners [] seeker moved) (ha : owners.Along edges [])
    (hs : seeker ∉ owners.seekers) :
    moved.Along edges [] ∧ moved.seekers = insert seeker owners.seekers := by
  refine ⟨h.along ha (fun hh => hs (Owners.holds_nil_iff.mp hh)), ?_⟩
  ext i
  rw [Finset.mem_insert, ← Owners.holds_nil_iff, ← Owners.holds_nil_iff]
  exact h.holds_iff ha

/-! ## Closed sets of items -/

/-- Every item of the set has an owner, who can take nothing outside of the set. -/
def Owners.Closed (edges : Nat → List Nat) (owners : Owners) (closed : Finset Nat) : Prop :=
  ∀ item ∈ closed, ∃ owner, owners.owner? item = some owner ∧ ∀ other ∈ edges owner, other ∈ closed

/-- **If all that the seekers without an item can take is in a closed set, nothing larger than the
set of owners can be placed.** -/
theorem Owners.Along.card_le_of_closed {closed : Finset Nat} (h : owners.Along edges [])
    (hclosed : owners.Closed edges closed) (hs : Placeable edges s)
    (hout : ∀ i ∈ s, i ∉ owners.seekers → ∀ item ∈ edges i, item ∈ closed) :
    s.card ≤ owners.seekers.card := by
  obtain ⟨place, hinj, hedge⟩ := hs
  have howner : ∀ {item}, item ∈ closed →
      owners.owner? item = some ((owners.owner? item).getD 0) := by
    intro item hi
    obtain ⟨owner, ho, _⟩ := hclosed item hi
    rw [ho, Option.getD_some]
  -- whoever is placed on a closed item stands for its owner, all others for themselves
  let stand (i : Nat) : Nat :=
    if place i ∈ closed then (owners.owner? (place i)).getD 0 else i
  have hself : ∀ i ∈ s, place i ∉ closed → i ∈ owners.seekers := by
    intro i hi hc
    by_contra hn
    exact hc (hout i hi hn _ (hedge i hi))
  have hapart : ∀ i ∈ s, ∀ j ∈ s, place i ∈ closed → place j ∉ closed → stand i ≠ stand j := by
    intro i _ j hj hi hc he
    obtain ⟨owner, ho, hsub⟩ := hclosed _ hi
    simp only [stand, if_pos hi, if_neg hc, ho, Option.getD_some] at he
    exact hc (hsub _ (he ▸ hedge j hj))
  refine Finset.card_le_card_of_injOn stand ?_ ?_
  · intro i hi
    by_cases hc : place i ∈ closed
    · simp only [stand, if_pos hc]
      exact Owners.mem_seekers.mpr ⟨_, howner hc⟩
    · simp only [stand, if_neg hc]
      exact hself i hi hc
  · intro i hi j hj he
    by_cases hc : place i ∈ closed
    · by_cases hd : place j ∈ closed
      · simp only [stand, if_pos hc, if_pos hd] at he
        have ho := howner hc
        rw [he] at ho
        exact hinj hi hj (h.single List.not_mem_nil List.not_mem_nil ho (howner hd))
      · exact absurd he (hapart i hi j hj hc hd)
    · by_cases hd : place j ∈ closed
      · exact absurd he.symm (hapart j hj i hi hd hc)
      · simpa only [stand, if_neg hc, if_neg hd] using he

/-! ## One attempt -/

section Attempt

variable (hlt : ∀ {seeker item}, item ∈ edges seeker → item < items)
include hlt

/-- An attempt that fails leaves a closed set with all that the seeker can take. -/
theorem closed_of_augment_none {after : List Nat}
    (ha : augment edges owners items seeker [] = (none, after)) :
    owners.Closed edges after.toFinset ∧ ∀ item ∈ edges seeker, item ∈ after.toFinset := by
  obtain ⟨hsub, hex⟩ := augment_none hlt (card_unseen_le_items items []) ha
  refine ⟨?_, fun item hi => List.mem_toFinset.mpr (hsub hi)⟩
  intro item hi
  obtain ⟨owner, ho, hown⟩ := hex.closed (List.mem_toFinset.mp hi) List.not_mem_nil
  exact ⟨owner, ho, fun other hm => List.mem_toFinset.mpr (hown hm)⟩

/-- An attempt fails only if the seeker cannot be placed together with the owners. -/
theorem Owners.Along.not_placeable_of_augment_none {after : List Nat} (h : owners.Along edges [])
    (hs : seeker ∉ owners.seekers) (ha : augment edges owners items seeker [] = (none, after)) :
    ¬ Placeable edges (insert seeker owners.seekers) := by
  intro hp
  obtain ⟨hclosed, hsub⟩ := closed_of_augment_none hlt ha
  have hle := h.card_le_of_closed hclosed hp (by
    intro i hi hn
    rcases Finset.mem_insert.mp hi with rfl | hi
    · exact hsub
    · exact absurd hi hn)
  rw [Finset.card_insert_of_notMem hs] at hle
  omega

omit hlt in
/-- An attempt that succeeds adds the seeker to the owners and keeps everyone at one item. -/
theorem Owners.Along.augment_some {after : List Nat} (h : owners.Along edges [])
    (hs : seeker ∉ owners.seekers)
    (ha : augment edges owners items seeker [] = (some moved, after)) :
    moved.Along edges [] ∧ moved.seekers = insert seeker owners.seekers :=
  (Matching.augment_some ha).augments h hs

/-- **No set that can be placed is larger than a set of owners that nobody can join.** -/
theorem Owners.Along.card_le_of_maximal (h : owners.Along edges []) (hs : Placeable edges s)
    (hmax : ∀ i ∈ s, i ∉ owners.seekers → ¬ Placeable edges (insert i owners.seekers)) :
    s.card ≤ owners.seekers.card := by
  have hfail : ∀ i ∈ s \ owners.seekers,
      ∃ after, augment edges owners items i [] = (none, after) := by
    intro i hi
    obtain ⟨his, hin⟩ := Finset.mem_sdiff.mp hi
    cases ha : augment edges owners items i [] with
    | mk found after =>
      cases found with
      | none => exact ⟨after, rfl⟩
      | some moved =>
        obtain ⟨hm, hseekers⟩ := h.augment_some hin ha
        exact absurd (hseekers ▸ hm.placeable) (hmax i his hin)
  -- the closed sets of all failing attempts together are closed
  let closed : Finset Nat :=
    (s \ owners.seekers).biUnion fun i => (augment edges owners items i []).2.toFinset
  have hmem : ∀ i ∈ s \ owners.seekers, ∀ {item after},
      augment edges owners items i [] = (none, after) → item ∈ after.toFinset → item ∈ closed := by
    intro i hi item after ha hm
    exact Finset.mem_biUnion.mpr ⟨i, hi, by rw [ha]; exact hm⟩
  have hclosed : owners.Closed edges closed := by
    intro item hm
    obtain ⟨i, hi, hm⟩ := Finset.mem_biUnion.mp hm
    obtain ⟨after, ha⟩ := hfail i hi
    rw [ha] at hm
    obtain ⟨owner, ho, hsub⟩ := (closed_of_augment_none hlt ha).1 item hm
    exact ⟨owner, ho, fun other hother => hmem i hi ha (hsub other hother)⟩
  refine h.card_le_of_closed hclosed hs ?_
  intro i his hin item hm
  have hi := Finset.mem_sdiff.mpr ⟨his, hin⟩
  obtain ⟨after, ha⟩ := hfail i hi
  exact hmem i hi ha ((closed_of_augment_none hlt ha).2 item hm)

end Attempt

end Assay.Matching
