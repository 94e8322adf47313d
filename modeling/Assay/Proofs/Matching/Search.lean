import Assay.Proofs.Matching.Path
import Mathlib.Data.Finset.Card
import Mathlib.Data.Finset.Range
import Mathlib.Data.Finset.SDiff

/-!
# Attempts

A seeker that attempts to get an item goes through what it can take. `Attempt` says how that goes
when the owners and the seen items are changed in place and nothing bounds the depth: the calls for
all choices share one set of seen items, and owners are written on the way back from a free item.
`augment` computes the same with a bound on the depth.

* `augment_attempt` — what `augment` returns is how the attempt ends, if it may go as deep as there
  are items. So every attempt comes to an end.
* `Attempt.unique` — and to no other end.
* `Attempt.owners_eq` — an attempt that fails leaves the owners as they were.
* `Attempt.exhausts` — an attempt that fails has seen a closed set of items: each has an owner, and
  what that owner can take is seen too.

## Depth

An attempt never visits an item twice. So the items that are not seen yet bound its depth. Where the
bound is reached all of them are seen, and there is nothing left to choose from.
-/

namespace Assay.Matching

variable {edges : Nat → List Nat} {owners : Owners} {items seeker depth : Nat}
  {choices seen after : List Nat}

/-! ## Attempts in place -/

/-- How an attempt ends: whether the seeker has got an item, who owns what, and what is seen. -/
structure Ending where
  found : Bool
  owners : Owners
  seen : List Nat
  deriving DecidableEq, Repr

/-- The ending for owners that a search returns, if it does, and the items that it has seen. -/
def Ending.of (owners : Owners) (result : Option Owners × List Nat) : Ending :=
  ⟨result.1.isSome, result.1.getD owners, result.2⟩

/-- How a seeker goes through some choices, with the owners and the seen items that it begins with.
An owner that is to be moved makes an attempt of its own at all that it can take, and what it has
seen stays seen, also if it fails. -/
inductive Attempt (edges : Nat → List Nat) :
    Nat → List Nat → Owners → List Nat → Ending → Prop where
  | fail {seeker : Nat} {owners : Owners} {seen : List Nat} :
      Attempt edges seeker [] owners seen ⟨false, owners, seen⟩
  | skip {seeker item : Nat} {choices seen : List Nat} {owners : Owners} {ending : Ending}
      (old : item ∈ seen) (rest : Attempt edges seeker choices owners seen ending) :
      Attempt edges seeker (item :: choices) owners seen ending
  | take {seeker item : Nat} {choices seen : List Nat} {owners : Owners} (fresh : item ∉ seen)
      (free : owners.owner? item = none) :
      Attempt edges seeker (item :: choices) owners seen
        ⟨true, owners.give item seeker, item :: seen⟩
  | move {seeker item owner : Nat} {choices seen after : List Nat} {owners moved : Owners}
      (fresh : item ∉ seen) (owned : owners.owner? item = some owner)
      (found : Attempt edges owner (edges owner) owners (item :: seen) ⟨true, moved, after⟩) :
      Attempt edges seeker (item :: choices) owners seen ⟨true, moved.give item seeker, after⟩
  | stuck {seeker item owner : Nat} {choices seen after : List Nat} {owners kept : Owners}
      {ending : Ending} (fresh : item ∉ seen) (owned : owners.owner? item = some owner)
      (failed : Attempt edges owner (edges owner) owners (item :: seen) ⟨false, kept, after⟩)
      (rest : Attempt edges seeker choices kept after ending) :
      Attempt edges seeker (item :: choices) owners seen ending

namespace Attempt

variable {ending other : Ending}

/-- **An attempt ends in one way only.** -/
theorem unique (h : Attempt edges seeker choices owners seen ending)
    (h' : Attempt edges seeker choices owners seen other) : ending = other := by
  induction h generalizing other with
  | fail =>
    cases h'
    rfl
  | skip old _ ih =>
    cases h' with
    | skip _ rest => exact ih rest
    | take fresh => exact absurd old fresh
    | move fresh => exact absurd old fresh
    | stuck fresh => exact absurd old fresh
  | take fresh free =>
    cases h' with
    | skip old => exact absurd old fresh
    | take => rfl
    | move _ owned => rw [free] at owned; cases owned
    | stuck _ owned => rw [free] at owned; cases owned
  | move fresh owned _ ih =>
    cases h' with
    | skip old => exact absurd old fresh
    | take _ free => rw [owned] at free; cases free
    | move _ owned' found =>
      obtain rfl := Option.some.inj (owned.symm.trans owned')
      cases ih found
      rfl
    | stuck _ owned' failed =>
      obtain rfl := Option.some.inj (owned.symm.trans owned')
      cases ih failed
  | stuck fresh owned _ _ ihfailed ihrest =>
    cases h' with
    | skip old => exact absurd old fresh
    | take _ free => rw [owned] at free; cases free
    | move _ owned' found =>
      obtain rfl := Option.some.inj (owned.symm.trans owned')
      cases ihfailed found
    | stuck _ owned' failed rest =>
      obtain rfl := Option.some.inj (owned.symm.trans owned')
      cases ihfailed failed
      exact ihrest rest

/-- **An attempt that fails leaves the owners as they were.** -/
theorem owners_eq (h : Attempt edges seeker choices owners seen ending)
    (hfails : ending.found = false) : ending.owners = owners := by
  induction h with
  | fail => rfl
  | skip _ _ ih => exact ih hfails
  | take => cases hfails
  | move => cases hfails
  | stuck _ _ _ _ ihfailed ihrest => exact (ihrest hfails).trans (ihfailed rfl)

/-- Nothing comes of choices that are all seen. -/
theorem of_subset (h : choices ⊆ seen) :
    Attempt edges seeker choices owners seen ⟨false, owners, seen⟩ := by
  induction choices with
  | nil => exact .fail
  | cons item choices ih =>
    rw [List.cons_subset] at h
    exact .skip h.1 (ih h.2)

end Attempt

/-! ## What a failing attempt has seen -/

/-- The items that are seen after a search and not before it each have an owner, and what the owner
can take is seen. -/
structure Exhausts (edges : Nat → List Nat) (owners : Owners) (before after : List Nat) : Prop where
  grows : before ⊆ after
  closed : ∀ {item}, item ∈ after → item ∉ before →
    ∃ owner, owners.owner? item = some owner ∧ edges owner ⊆ after

theorem Exhausts.refl (edges : Nat → List Nat) (owners : Owners) (seen : List Nat) :
    Exhausts edges owners seen seen where
  grows := List.Subset.refl _
  closed hi hn := absurd hi hn

theorem Exhausts.trans {between : List Nat} (h : Exhausts edges owners seen between)
    (h' : Exhausts edges owners between after) : Exhausts edges owners seen after where
  grows := List.Subset.trans h.grows h'.grows
  closed := by
    intro item hi hn
    by_cases hb : item ∈ between
    · obtain ⟨owner, ho, hsub⟩ := h.closed hb hn
      exact ⟨owner, ho, List.Subset.trans hsub h'.grows⟩
    · exact h'.closed hi hb

/-- An item whose owner cannot be moved joins the items that are seen. -/
theorem Exhausts.of_cons {item owner : Nat} (h : Exhausts edges owners (item :: seen) after)
    (ho : owners.owner? item = some owner) (hsub : edges owner ⊆ after) :
    Exhausts edges owners seen after where
  grows := List.Subset.trans (List.subset_cons_self _ _) h.grows
  closed := by
    intro other hi hn
    by_cases he : other = item
    · exact ⟨owner, by rw [he]; exact ho, hsub⟩
    · exact h.closed hi (by simp [he, hn])

/-- **An attempt that fails has seen all its choices, and a closed set of items.** -/
theorem Attempt.exhausts {ending : Ending} (h : Attempt edges seeker choices owners seen ending)
    (hfails : ending.found = false) :
    choices ⊆ ending.seen ∧ Exhausts edges owners seen ending.seen := by
  induction h with
  | fail => exact ⟨List.nil_subset _, Exhausts.refl _ _ _⟩
  | skip old _ ih =>
    obtain ⟨hsub, hex⟩ := ih hfails
    exact ⟨List.cons_subset.mpr ⟨hex.grows old, hsub⟩, hex⟩
  | take => cases hfails
  | move => cases hfails
  | stuck _ owned failed _ ihfailed ihrest =>
    -- the failing move exhausts the item and all behind it, the other choices go on from there
    obtain rfl := failed.owners_eq rfl
    obtain ⟨hown, hmoved⟩ := ihfailed rfl
    obtain ⟨hsub, hex⟩ := ihrest hfails
    refine ⟨List.cons_subset.mpr ⟨hex.grows (hmoved.grows List.mem_cons_self), hsub⟩, ?_⟩
    exact (hmoved.of_cons owned hown).trans hex

/-! ## How deep an attempt goes -/

/-- The items that are not seen yet. -/
def unseen (items : Nat) (seen : List Nat) : Finset Nat := Finset.range items \ seen.toFinset

theorem card_unseen_le_items (items : Nat) (seen : List Nat) :
    (unseen items seen).card ≤ items :=
  (Finset.card_le_card Finset.sdiff_subset).trans (Finset.card_range items).le

theorem card_unseen_le (hsub : seen ⊆ after) :
    (unseen items after).card ≤ (unseen items seen).card := by
  refine Finset.card_le_card (Finset.sdiff_subset_sdiff (Finset.Subset.refl _) ?_)
  intro i hi
  rw [List.mem_toFinset] at hi ⊢
  exact hsub hi

theorem card_unseen_cons_lt {item : Nat} (hlt : item < items) (hi : item ∉ seen) :
    (unseen items (item :: seen)).card < (unseen items seen).card := by
  refine Finset.card_lt_card (Finset.ssubset_iff_of_subset ?_ |>.mpr ⟨item, ?_, ?_⟩)
  · exact Finset.sdiff_subset_sdiff (Finset.Subset.refl _) (by simp)
  · simp [unseen, hlt, hi]
  · simp [unseen]

/-- If moves within the depth are attempts, so is a choice one deeper. -/
theorem firstChoice_attempt {move : Nat → List Nat → Option Owners × List Nat}
    (hgrows : ∀ owner seen, seen ⊆ (move owner seen).2)
    (hmove : ∀ {item owner seen}, owners.owner? item = some owner →
      (unseen items seen).card ≤ depth →
      Attempt edges owner (edges owner) owners seen (.of owners (move owner seen)))
    (hlt : ∀ item ∈ choices, item < items) (hroom : (unseen items seen).card ≤ depth + 1) :
    Attempt edges seeker choices owners seen
      (.of owners (firstChoice owners seeker move choices seen)) := by
  induction choices generalizing seen with
  | nil => exact .fail
  | cons item choices ih =>
    have hrest : ∀ i ∈ choices, i < items := fun i hi => hlt i (List.mem_cons_of_mem _ hi)
    rw [firstChoice]
    split
    · next hold => exact .skip hold (ih hrest hroom)
    · next hfresh =>
      split
      · next hfree => exact .take hfresh hfree
      · next owner howner =>
        have hroom' : (unseen items (item :: seen)).card ≤ depth := by
          have := card_unseen_cons_lt (hlt item List.mem_cons_self) hfresh
          omega
        have ha := hmove howner hroom'
        have hg := hgrows owner (item :: seen)
        split
        · next heq =>
          rw [heq] at ha
          exact .move hfresh howner ha
        · next between heq =>
          rw [heq] at ha hg
          have hbetween : (unseen items between).card ≤ depth := (card_unseen_le hg).trans hroom'
          exact .stuck hfresh howner ha (ih hrest (hbetween.trans (Nat.le_succ _)))

/-- **A search that may go as deep as there are items ends as the attempt does.** Only what the
seeker and the owners can take counts as items. -/
theorem augment_attempt
    (howned : ∀ {item owner}, owners.owner? item = some owner → ∀ i ∈ edges owner, i < items)
    (hlt : ∀ i ∈ edges seeker, i < items) (hroom : (unseen items seen).card ≤ depth) :
    Attempt edges seeker (edges seeker) owners seen
      (.of owners (augment edges owners depth seeker seen)) := by
  induction depth generalizing seeker seen with
  | zero =>
    refine Attempt.of_subset ?_
    intro item hi
    have hempty : unseen items seen = ∅ := Finset.card_eq_zero.mp (Nat.le_zero.mp hroom)
    by_contra hn
    have hmem : item ∈ unseen items seen := by simp [unseen, hlt item hi, hn]
    rw [hempty] at hmem
    cases hmem
  | succ depth ih =>
    exact firstChoice_attempt (fun _ _ => augment_grows) (fun ho => ih (howned ho)) hlt hroom

/-! ## Searches that fail -/

section Fails

variable (hlt : ∀ {seeker item}, item ∈ edges seeker → item < items)
include hlt

/-- Choices that all fail are seen, and with them a closed set of items. -/
theorem firstChoice_none (hchoices : ∀ item ∈ choices, item < items)
    (hroom : (unseen items seen).card ≤ depth + 1)
    (h : firstChoice owners seeker (augment edges owners depth) choices seen = (none, after)) :
    choices ⊆ after ∧ Exhausts edges owners seen after := by
  have hattempt : Attempt edges seeker choices owners seen (.of owners (none, after)) :=
    h ▸ firstChoice_attempt (fun _ _ => augment_grows)
      (fun _ => augment_attempt (fun _ _ => hlt) fun _ => hlt) hchoices hroom
  exact hattempt.exhausts rfl

/-- **A search that fails has seen all that the seeker can take, and a closed set of items.** -/
theorem augment_none (hroom : (unseen items seen).card ≤ depth)
    (h : augment edges owners depth seeker seen = (none, after)) :
    edges seeker ⊆ after ∧ Exhausts edges owners seen after := by
  have hattempt : Attempt edges seeker (edges seeker) owners seen (.of owners (none, after)) :=
    h ▸ augment_attempt (fun _ _ => hlt) (fun _ => hlt) hroom
  exact hattempt.exhausts rfl

end Fails

end Assay.Matching
