import Assay.Proofs.Matching.Greedy
import Mathlib.Logic.Relation

/-!
# Exchanges

An owner who takes another item frees the one it had, which frees its next owner to take that one,
and so on. `Owners.Shifts` says that a row of such moves can begin at one item and end at another
one: if the first is free, all owners can keep an item while the other one is free instead.

Owners are settled if no free item can be taken at the cost of a later one (`Owners.Settled`). That
is what it means that no other placement of the same seekers prefers an earlier item
(`exists_shifts_of_placed`, `placeable_of_shifts`).

## Attempts

A seeker that takes a free item takes the first one that it can have. All earlier ones are in a
closed set, and no row of moves leads from a free item into such a set. So the owners stay settled,
as long as nobody is moved (`Owners.Settled.assignAll`). An owner who is moved takes what is best
for itself, which may be a later item than the one that the seeker could have had.
-/

namespace Assay.Matching

variable {edges : Nat → List Nat} {owners moved : Owners} {items seeker : Nat}
  {seekers seen after : List Nat}

theorem Owners.ne_of_owned {free item owner : Nat} (hfree : owners.owner? free = none)
    (howner : owners.owner? item = some owner) : free ≠ item := by
  rintro rfl
  rw [hfree] at howner
  cases howner

/-! ## Rows of moves -/

/-- The owner of an item can take another one, and so frees it. -/
def Owners.Frees (edges : Nat → List Nat) (owners : Owners) (taken freed : Nat) : Prop :=
  ∃ owner, owners.owner? freed = some owner ∧ taken ∈ edges owner

/-- Some owners can each take the item that the one before frees, so that one item is taken and
another one freed in the end. -/
def Owners.Shifts (edges : Nat → List Nat) (owners : Owners) : Nat → Nat → Prop :=
  Relation.TransGen (owners.Frees edges)

theorem Owners.Shifts.exists_frees {taken freed : Nat} (h : owners.Shifts edges taken freed) :
    ∃ last, owners.Frees edges last freed := by
  unfold Owners.Shifts at h
  cases h with
  | single h => exact ⟨taken, h⟩
  | tail _ h => exact ⟨_, h⟩

/-- What holds of an item together with all that its owner can take holds back to the beginning of a
row of moves. -/
theorem Owners.Shifts.of_freed {p : Nat → Prop} {taken freed : Nat}
    (h : owners.Shifts edges taken freed)
    (hback : ∀ {x y}, owners.Frees edges x y → p y → p x) (hfreed : p freed) : p taken := by
  unfold Owners.Shifts at h
  induction h with
  | single h => exact hback h hfreed
  | tail _ h ih => exact ih (hback h hfreed)

/-- No row of moves leads into a closed set from outside. -/
theorem Exhausts.mem_of_shifts {taken freed : Nat} (h : Exhausts edges owners [] seen)
    (hshifts : owners.Shifts edges taken freed) (hfreed : freed ∈ seen) : taken ∈ seen := by
  refine hshifts.of_freed ?_ hfreed
  rintro x y ⟨owner, howner, hedge⟩ hy
  obtain ⟨other, hother, hsub⟩ := h.closed hy List.not_mem_nil
  obtain rfl : owner = other := Option.some.inj (howner.symm.trans hother)
  exact hsub hedge

/-! ## Settled owners -/

/-- No row of moves takes a free item and frees a later one. -/
def Owners.Settled (edges : Nat → List Nat) (owners : Owners) : Prop :=
  ∀ taken freed, owners.owner? taken = none → owners.Shifts edges taken freed → freed < taken

theorem Owners.settled_empty (edges : Nat → List Nat) : Owners.empty.Settled edges := by
  intro taken freed _ h
  obtain ⟨_, owner, howner, _⟩ := h.exists_frees
  cases howner

/-- Only what owners can take matters. -/
theorem Owners.Settled.congr {edges' : Nat → List Nat} (h : owners.Settled edges)
    (hsame : ∀ i ∈ owners.seekers, edges' i = edges i) : owners.Settled edges' := by
  have hfrees {x y : Nat} (hxy : owners.Frees edges' x y) : owners.Frees edges x y := by
    obtain ⟨owner, howner, hedge⟩ := hxy
    rw [hsame owner (Owners.mem_seekers.mpr ⟨y, howner⟩)] at hedge
    exact ⟨owner, howner, hedge⟩
  intro taken freed hfree hshifts
  exact h taken freed hfree (Relation.TransGen.mono (fun _ _ => hfrees) _ _ hshifts)

/-! ## Taking a free item -/

section Give

variable {item taken freed : Nat}

theorem Owners.Frees.of_give (h : (owners.give item seeker).Frees edges taken freed) :
    freed = item ∧ taken ∈ edges seeker ∨ owners.Frees edges taken freed := by
  obtain ⟨owner, howner, hedge⟩ := h
  by_cases heq : freed = item
  · rw [heq, Owners.owner?_give_same] at howner
    obtain rfl := Option.some.inj howner
    exact Or.inl ⟨heq, hedge⟩
  · rw [Owners.owner?_give_other _ _ heq] at howner
    exact Or.inr ⟨owner, howner, hedge⟩

/-- After a seeker has taken an item, a row of moves is one of before, or it comes to the item by a
move of the seeker, and what follows is one of before. -/
theorem Owners.Shifts.of_give (h : (owners.give item seeker).Shifts edges taken freed) :
    owners.Shifts edges taken freed ∨
      (∃ x ∈ edges seeker, x = taken ∨ owners.Shifts edges taken x) ∧
        (freed = item ∨ owners.Shifts edges item freed) := by
  unfold Owners.Shifts at h
  -- on the last move: the seeker makes it to free the item, or it is one of before
  induction h with
  | single h =>
    rcases h.of_give with ⟨heq, hedge⟩ | hold
    · exact Or.inr ⟨⟨taken, hedge, Or.inl rfl⟩, Or.inl heq⟩
    · exact Or.inl (.single hold)
  | tail _ h ih =>
    rcases h.of_give with ⟨heq, hedge⟩ | hold
    · rcases ih with hrow | ⟨hcomes, -⟩
      · exact Or.inr ⟨⟨_, hedge, Or.inr hrow⟩, Or.inl heq⟩
      · exact Or.inr ⟨hcomes, Or.inl heq⟩
    · rcases ih with hrow | ⟨hcomes, rfl | hrow⟩
      · exact Or.inl (.tail hrow hold)
      · exact Or.inr ⟨hcomes, Or.inr (.single hold)⟩
      · exact Or.inr ⟨hcomes, Or.inr (.tail hrow hold)⟩

/-- **Owners stay settled when a seeker takes a free item**, if all earlier items that it could take
are in a closed set. -/
theorem Owners.Settled.give (h : owners.Settled edges) (hfree : owners.owner? item = none)
    (hclosed : Exhausts edges owners [] seen)
    (hearlier : ∀ other ∈ edges seeker, other < item → other ∈ seen) :
    (owners.give item seeker).Settled edges := by
  intro taken freed htaken hshifts
  have hne : taken ≠ item := Owners.ne_of_owned htaken (Owners.owner?_give_same _ _ _)
  rw [Owners.owner?_give_other _ _ hne] at htaken
  rcases hshifts.of_give with hrow | ⟨⟨x, hedge, hx⟩, hrest⟩
  · exact h taken freed htaken hrow
  · -- the row begins at a free item, so it comes to the seeker from outside of the closed set
    have hout : x ∉ seen := by
      intro hmem
      have hstart : taken ∈ seen := by
        rcases hx with rfl | hx
        · exact hmem
        · exact hclosed.mem_of_shifts hx hmem
      obtain ⟨owner, howner, _⟩ := hclosed.closed hstart List.not_mem_nil
      rw [htaken] at howner
      cases howner
    have hle : item ≤ x := Nat.le_of_not_lt fun hlt => hout (hearlier x hedge hlt)
    have hbehind : item < taken := by
      rcases hx with rfl | hx
      · exact Nat.lt_of_le_of_ne hle hne.symm
      · exact Nat.lt_of_le_of_lt hle (h taken x htaken hx)
    rcases hrest with rfl | hrow
    · exact hbehind
    · exact (h item freed hfree hrow).trans hbehind

end Give

/-! ## Attempts that move nobody -/

/-- Every item that has an owner keeps it. -/
def Owners.Kept (owners moved : Owners) : Prop :=
  ∀ item owner, owners.owner? item = some owner → moved.owner? item = some owner

instance : Decidable (owners.Kept moved) :=
  decidable_of_iff (∀ pair ∈ owners.pairs, moved.owner? pair.1 = owners.owner? pair.1) (by
    constructor
    · intro h item owner howner
      obtain ⟨front, back, hpairs, _⟩ := List.lookup_eq_some_iff.mp howner
      rw [h (item, owner) (by simp [hpairs]), howner]
    · intro h pair hpair
      cases howner : owners.owner? pair.1 with
      | none => simpa using List.lookup_eq_none_iff.mp howner pair hpair
      | some owner => exact h pair.1 owner howner)

/-- The choices in front of the one that is taken fail. -/
theorem firstChoice_eq_some {move : Nat → List Nat → Option Owners × List Nat} {choices : List Nat}
    (h : firstChoice owners seeker move choices seen = (some moved, after)) :
    ∃ front item back between rest, choices = front ++ item :: back ∧
      firstChoice owners seeker move front seen = (none, between) ∧
      moved = Owners.give rest item seeker ∧ (owners.owner? item = none → rest = owners) := by
  induction choices generalizing seen with
  | nil => cases h
  | cons item choices ih =>
    rw [firstChoice] at h
    split at h
    · next hseen =>
      obtain ⟨front, taken, back, between, rest, rfl, hfront, hmoved⟩ := ih h
      refine ⟨item :: front, taken, back, between, rest, rfl, ?_, hmoved⟩
      rw [firstChoice, if_pos hseen, hfront]
    · next hfresh =>
      split at h
      · cases h
        exact ⟨[], item, choices, seen, owners, rfl, rfl, rfl, fun _ => rfl⟩
      · next owner howner =>
        split at h
        · next rest _ heq =>
          cases h
          refine ⟨[], item, choices, seen, rest, rfl, rfl, rfl, fun hfree => ?_⟩
          rw [hfree] at howner
          cases howner
        · next between heq =>
          obtain ⟨front, taken, back, between, rest, rfl, hfront, hmoved⟩ := ih h
          refine ⟨item :: front, taken, back, between, rest, rfl, ?_, hmoved⟩
          rw [firstChoice, if_neg hfresh, howner]
          simp only [heq, hfront]

section Attempt

variable (hlt : ∀ {seeker item}, item ∈ edges seeker → item < items)
include hlt

/-- **An attempt that moves nobody keeps the owners settled**, if the seeker tries earlier items
first. -/
theorem Owners.Settled.augment (h : owners.Settled edges) (hs : seeker ∉ owners.seekers)
    (hascending : (edges seeker).Pairwise (· < ·))
    (ha : augment edges owners items seeker [] = (some moved, after)) (hkept : owners.Kept moved) :
    moved.Settled edges := by
  obtain - | depth := items
  · cases ha
  obtain ⟨front, item, back, between, rest, hchoices, hfront, rfl, hrest⟩ := firstChoice_eq_some ha
  have hfree : owners.owner? item = none := by
    -- an owner of the item would have lost it to the seeker
    refine Option.eq_none_iff_forall_ne_some.mpr fun owner howner => hs ?_
    have hsame := hkept item owner howner
    rw [Owners.owner?_give_same] at hsame
    rw [Option.some.inj hsame]
    exact Owners.mem_seekers.mpr ⟨item, howner⟩
  obtain rfl := hrest hfree
  have hchoice : ∀ other ∈ front, other < depth + 1 := by
    intro other hother
    have hedge : other ∈ edges seeker := by
      rw [hchoices]
      exact List.mem_append_left _ hother
    exact hlt hedge
  obtain ⟨hsub, hclosed⟩ := firstChoice_none hlt hchoice (card_unseen_le_items _ _) hfront
  refine h.give hfree hclosed fun other hother hearlier => hsub ?_
  rw [hchoices] at hother hascending
  obtain ⟨-, hback, -⟩ := List.pairwise_append.mp hascending
  rcases List.mem_append.mp hother with hother | hother
  · exact hother
  · rcases List.mem_cons.mp hother with rfl | hother
    · exact absurd hearlier (Nat.lt_irrefl _)
    · exact absurd ((List.pairwise_cons.mp hback).1 other hother) (Nat.lt_asymm hearlier)

end Attempt

/-- None of the seekers that try in turn makes an owner lose its item. -/
def Undisturbed (edges : Nat → List Nat) (items : Nat) : Owners → List Nat → Prop
  | _, [] => True
  | owners, seeker :: seekers =>
    owners.Kept (assignOne edges items owners seeker) ∧
      Undisturbed edges items (assignOne edges items owners seeker) seekers

instance decidableUndisturbed (edges : Nat → List Nat) (items : Nat) :
    (owners : Owners) → (seekers : List Nat) → Decidable (Undisturbed edges items owners seekers)
  | _, [] => inferInstanceAs (Decidable True)
  | owners, seeker :: seekers =>
    have := decidableUndisturbed edges items (assignOne edges items owners seeker) seekers
    inferInstanceAs (Decidable (_ ∧ _))

section Run

variable (hlt : ∀ {seeker item}, item ∈ edges seeker → item < items)
include hlt

theorem Owners.Settled.assignOne (h : owners.Settled edges) (hs : seeker ∉ owners.seekers)
    (hascending : (edges seeker).Pairwise (· < ·))
    (hkept : owners.Kept (assignOne edges items owners seeker)) :
    (assignOne edges items owners seeker).Settled edges := by
  unfold Matching.assignOne at hkept ⊢
  cases ha : Matching.augment edges owners items seeker [] with
  | mk found after =>
    rw [ha] at hkept
    cases found with
    | none => exact h
    | some moved => exact h.augment hlt hs hascending ha hkept

/-- **Seekers that try in turn and move nobody keep the owners settled.** -/
theorem Owners.Settled.assignAll (h : owners.Settled edges) (halong : owners.Along edges [])
    (hascending : ∀ i, (edges i).Pairwise (· < ·)) (hnodup : seekers.Nodup)
    (hnew : ∀ i ∈ seekers, i ∉ owners.seekers)
    (hundisturbed : Undisturbed edges items owners seekers) :
    (assignAll edges items owners seekers).Settled edges := by
  induction seekers generalizing owners with
  | nil => exact h
  | cons seeker seekers ih =>
    rw [List.nodup_cons] at hnodup
    have hs := hnew seeker List.mem_cons_self
    obtain ⟨hone, hseekers⟩ := halong.assignOne hlt hs
    obtain ⟨hkept, hundisturbed⟩ := hundisturbed
    refine ih (h.assignOne hlt hs (hascending seeker) hkept) hone hnodup.2 ?_ hundisturbed
    intro i hi hm
    rw [hseekers] at hm
    rcases mem_of_mem_extend hm with rfl | hm
    · exact hnodup.1 hi
    · exact hnew i (List.mem_cons_of_mem _ hi) hm

end Run

/-! ## Other placements -/

/-- **A placement of the owners that uses a free item leaves an item over to which a row of moves
leads from there.** -/
theorem exists_shifts_of_placed {pairs : Finset (Nat × Nat)}
    (hleft : Set.InjOn Prod.fst (pairs : Set (Nat × Nat)))
    (hedge : ∀ p ∈ pairs, p.2 ∈ edges p.1) (himage : pairs.image Prod.fst = owners.seekers)
    {free : Nat} (hfree : owners.owner? free = none) (hmem : free ∈ pairs.image Prod.snd) :
    ∃ freed, (∃ owner, owners.owner? freed = some owner) ∧ freed ∉ pairs.image Prod.snd ∧
      owners.Shifts edges free freed := by
  classical
  have hown : ∀ p ∈ pairs, ∃ item, owners.owner? item = some p.1 := fun p hp =>
    Owners.mem_seekers.mp (himage ▸ Finset.mem_image_of_mem _ hp)
  choose! item howner using hown
  -- the pairs whose item a row of moves comes to, with the pair of the free item itself
  let row := pairs.filter fun p => p.2 = free ∨ owners.Shifts edges free p.2
  have hsub : row ⊆ pairs := Finset.filter_subset _ _
  have hshifts : ∀ p ∈ row, owners.Shifts edges free (item p) := by
    intro p hp
    have hfrees : owners.Frees edges p.2 (item p) := ⟨p.1, howner p (hsub hp), hedge p (hsub hp)⟩
    rcases (Finset.mem_filter.mp hp).2 with heq | hrow
    · exact .single (heq ▸ hfrees)
    · exact .tail hrow hfrees
  have hinj : Set.InjOn item (row : Set (Nat × Nat)) := by
    intro p hp q hq heq
    have hp' := howner p (hsub hp)
    rw [heq, howner q (hsub hq)] at hp'
    exact hleft (hsub hp) (hsub hq) (Option.some.inj hp').symm
  -- if all that is owned along the row were placed again, the free item would be one too many
  obtain ⟨p, hp, hout⟩ : ∃ p ∈ row, item p ∉ (row.image Prod.snd).erase free := by
    by_contra hnone
    push Not at hnone
    have hstart : free ∈ row.image Prod.snd := by
      obtain ⟨p, hp, rfl⟩ := Finset.mem_image.mp hmem
      exact Finset.mem_image_of_mem _ (Finset.mem_filter.mpr ⟨hp, Or.inl rfl⟩)
    have hle := Finset.card_le_card_of_injOn item hnone hinj
    have hlt := Finset.card_erase_lt_of_mem hstart
    have himage : (row.image Prod.snd).card ≤ row.card := Finset.card_image_le
    omega
  refine ⟨item p, ⟨p.1, howner p (hsub hp)⟩, fun hplaced => hout ?_, hshifts p hp⟩
  obtain ⟨q, hq, heq⟩ := Finset.mem_image.mp hplaced
  have hq' : q ∈ row := Finset.mem_filter.mpr ⟨hq, Or.inr (heq ▸ hshifts p hp)⟩
  have hne : free ≠ item p := Owners.ne_of_owned hfree (howner p (hsub hp))
  exact Finset.mem_erase.mpr ⟨hne.symm, Finset.mem_image.mpr ⟨q, hq', heq⟩⟩

/-- The edges to a free item and to all owned items but one. -/
def exchangeEdges (edges : Nat → List Nat) (owners : Owners) (free freed i : Nat) : List Nat :=
  (edges i).filter fun item => item = free ∨ item ≠ freed ∧ (owners.owner? item).isSome

section Exchange

variable {free freed owner : Nat}

theorem mem_exchangeEdges {i item : Nat} :
    item ∈ exchangeEdges edges owners free freed i ↔
      item ∈ edges i ∧ (item = free ∨ item ≠ freed ∧ (owners.owner? item).isSome = true) := by
  simp [exchangeEdges]

/-- Outside the item to be freed, the owners are along these edges. -/
theorem Owners.Along.along_exchangeEdges (h : owners.Along edges []) :
    owners.Along (exchangeEdges edges owners free freed) [freed] where
  edge := by
    intro item i hitem ho
    refine mem_exchangeEdges.mpr ⟨h.edge List.not_mem_nil ho, Or.inr ⟨?_, ?_⟩⟩
    · exact fun heq => hitem (List.mem_singleton.mpr heq)
    · rw [ho]
      rfl
  single _ _ := h.single List.not_mem_nil List.not_mem_nil

/-- Where a row of moves leads from a free item to another one, its owner finds a new item without
going back to that one. -/
theorem exists_augment_of_shifts (hlt : ∀ {seeker item}, item ∈ edges seeker → item < items)
    (hfree : owners.owner? free = none) (howner : owners.owner? freed = some owner)
    (hshifts : owners.Shifts edges free freed) :
    ∃ moved after, augment (exchangeEdges edges owners free freed) owners items owner [freed]
      = (some moved, after) := by
  cases ha : augment (exchangeEdges edges owners free freed) owners items owner [freed] with
  | mk found after =>
    cases found with
    | some moved => exact ⟨moved, after, rfl⟩
    | none =>
      exfalso
      obtain ⟨hsub, hclosed⟩ := augment_none (fun hm => hlt (mem_exchangeEdges.mp hm).1)
        (card_unseen_le_items items [freed]) ha
      have hfreed : freed ∈ after := hclosed.grows List.mem_cons_self
      have hreach {item i : Nat} (hitem : item ∈ after) (ho : owners.owner? item = some i) :
          exchangeEdges edges owners free freed i ⊆ after := by
        by_cases heq : item = freed
        · rw [heq, howner] at ho
          rwa [← Option.some.inj ho]
        · obtain ⟨i', ho', hsub'⟩ := hclosed.closed hitem fun hm => heq (List.mem_singleton.mp hm)
          rwa [Option.some.inj (ho.symm.trans ho')]
      -- what the search has seen holds the row back to its beginning, which has no owner
      have hback : free = free ∨ (owners.owner? free).isSome = true → free ∈ after := by
        refine hshifts.of_freed
          (p := fun x => x = free ∨ (owners.owner? x).isSome = true → x ∈ after) ?_ fun _ => hfreed
        rintro x y ⟨i, ho, hx⟩ hy hcan
        by_cases heq : x = freed
        · rwa [heq]
        · refine hreach (hy (Or.inr (by rw [ho]; rfl))) ho (mem_exchangeEdges.mpr ⟨hx, ?_⟩)
          exact hcan.imp_right fun hsome => ⟨heq, hsome⟩
      have hne : free ∉ [freed] := fun hm =>
        Owners.ne_of_owned hfree howner (List.mem_singleton.mp hm)
      obtain ⟨i, ho, -⟩ := hclosed.closed (hback (Or.inl rfl)) hne
      rw [hfree] at ho
      cases ho

/-- **Where a row of moves leads from a free item to another one, all owners can be placed on the
free item and the items that they own without the other one.** -/
theorem Owners.Along.placeable_of_shifts (h : owners.Along edges [])
    (hlt : ∀ {seeker item}, item ∈ edges seeker → item < items)
    (hfree : owners.owner? free = none) (hshifts : owners.Shifts edges free freed) :
    Placeable (exchangeEdges edges owners free freed) owners.seekers := by
  obtain ⟨_, owner, howner, -⟩ := hshifts.exists_frees
  obtain ⟨moved, after, ha⟩ := exists_augment_of_shifts hlt hfree howner hshifts
  have hpath := Matching.augment_some ha
  have halong : moved.Along (exchangeEdges edges owners free freed) [freed] :=
    hpath.along h.along_exchangeEdges (h.not_holds_cons List.not_mem_nil howner)
  refine moved.placeable_of_owned fun i hi => ?_
  have hholds : moved.Holds [freed] i := by
    refine (hpath.holds_iff h.along_exchangeEdges).mpr ?_
    obtain ⟨item, hitem⟩ := Owners.mem_seekers.mp hi
    by_cases heq : item = freed
    · rw [heq, howner] at hitem
      exact Or.inl (Option.some.inj hitem).symm
    · exact Or.inr ⟨item, fun hm => heq (List.mem_singleton.mp hm), hitem⟩
  obtain ⟨item, hitem, hown⟩ := hholds
  exact ⟨item, halong.edge hitem hown, hown⟩

end Exchange

end Assay.Matching
