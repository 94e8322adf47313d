import Assay.Proofs.Matching.Placement

/-!
# What an attempt comes to

A seeker that owns nothing attempts to get an item, along any edges and with any owners that have
one item each. The attempt ends. It finds an item exactly if an alternating path leads from the
seeker to a free item; then the seeker and one more item join those that had each other before, and
nobody else comes or goes. Otherwise nothing has changed (`attempt_augments`).

That the path exists if the attempt succeeds is read off what the attempt does to the owners. The
other direction is by contradiction: a failing attempt leaves a closed set that the path would have
to lead out of.
-/

namespace Assay.Matching

variable {edges : Nat → List Nat} {owners moved : Owners} {items depth item seeker : Nat}
  {avoid seen path : List Nat} {ending : Ending}

/-! ## Items that are owned -/

/-- The items that have an owner. -/
def Owners.owned (owners : Owners) : Finset Nat := (owners.pairs.map Prod.fst).toFinset

theorem Owners.notMem_owned : item ∉ owners.owned ↔ owners.owner? item = none := by
  unfold Owners.owned Owners.owner?
  rw [List.mem_toFinset, List.mem_map, List.lookup_eq_none_iff, not_exists]
  refine forall_congr' fun pair => ?_
  rw [not_and, bne_iff_ne, ne_comm]

theorem Owners.mem_owned : item ∈ owners.owned ↔ ∃ owner, owners.owner? item = some owner := by
  rw [← not_iff_not, Owners.notMem_owned, Option.eq_none_iff_forall_ne_some, not_exists]

@[simp] theorem Owners.owned_give : (owners.give item seeker).owned = insert item owners.owned := by
  ext other
  rw [Finset.mem_insert, Owners.mem_owned, Owners.mem_owned]
  by_cases h : other = item
  · simp [h]
  · simp [h, Owners.owner?_give_other _ _ h]

/-- A path adds one item to those that are owned and takes none away. -/
theorem Reroutes.exists_owned (h : Reroutes edges owners avoid seeker moved) :
    ∃ item ∉ owners.owned, moved.owned = insert item owners.owned := by
  induction h with
  | take _ _ free => exact ⟨_, Owners.notMem_owned.mpr free, Owners.owned_give⟩
  | move _ _ owned _ ih =>
    obtain ⟨last, hlast, heq⟩ := ih
    refine ⟨last, hlast, ?_⟩
    rw [Owners.owned_give, heq, Finset.insert_comm,
      Finset.insert_eq_of_mem (Owners.mem_owned.mpr ⟨_, owned⟩)]

/-! ## Paths by their items -/

/-- The items of an alternating path: the seeker can take the first one, the owner of each one can
take the next one, and the last one is free. -/
inductive AlternatingPath (edges : Nat → List Nat) (owners : Owners) : Nat → List Nat → Prop where
  | free {seeker item : Nat} (edge : item ∈ edges seeker) (free : owners.owner? item = none) :
      AlternatingPath edges owners seeker [item]
  | owned {seeker item owner : Nat} {path : List Nat} (edge : item ∈ edges seeker)
      (owned : owners.owner? item = some owner) (rest : AlternatingPath edges owners owner path) :
      AlternatingPath edges owners seeker (item :: path)

/-- Owners are moved along an alternating path. -/
theorem Reroutes.exists_alternatingPath (h : Reroutes edges owners avoid seeker moved) :
    ∃ path, path.Nodup ∧ (∀ item ∈ path, item ∉ avoid) ∧
      AlternatingPath edges owners seeker path := by
  induction h with
  | take fresh edge free =>
    exact ⟨_, List.nodup_singleton _, by simpa using fresh, .free edge free⟩
  | @move _ _ item _ _ fresh edge owned _ ih =>
    obtain ⟨path, hnodup, havoid, hpath⟩ := ih
    refine ⟨item :: path, List.nodup_cons.mpr ⟨?_, hnodup⟩, ?_, .owned edge owned hpath⟩
    · exact fun hm => havoid item hm List.mem_cons_self
    · intro other hm
      rcases List.mem_cons.mp hm with rfl | hm
      · exact fresh
      · exact fun ha => havoid other hm (List.mem_cons_of_mem _ ha)

/-- **No alternating path leads out of a closed set.** -/
theorem Exhausts.not_alternatingPath (h : Exhausts edges owners [] seen)
    (hsub : edges seeker ⊆ seen) : ¬ AlternatingPath edges owners seeker path := by
  intro hpath
  induction hpath with
  | free edge free =>
    obtain ⟨owner, howner, -⟩ := h.closed (hsub edge) List.not_mem_nil
    rw [free] at howner
    cases howner
  | owned edge owned _ ih =>
    obtain ⟨owner, howner, hown⟩ := h.closed (hsub edge) List.not_mem_nil
    obtain rfl := Option.some.inj (owned.symm.trans howner)
    exact ih hown

/-! ## The end of an attempt -/

/-- All that a seeker and the owners can take is bounded. -/
theorem exists_items (edges : Nat → List Nat) (owners : Owners) (seeker : Nat) :
    ∃ items, ∀ i ∈ insert seeker owners.seekers, ∀ item ∈ edges i, item < items := by
  obtain ⟨items, hsub⟩ := Finset.exists_nat_subset_range
    ((insert seeker owners.seekers).biUnion fun i => (edges i).toFinset)
  refine ⟨items, fun i hi item hitem => Finset.mem_range.mp (hsub ?_)⟩
  exact Finset.mem_biUnion.mpr ⟨i, hi, List.mem_toFinset.mpr hitem⟩

section Depth

variable (hlt : ∀ i ∈ insert seeker owners.seekers, ∀ item ∈ edges i, item < items)
  (hdepth : items ≤ depth)
include hlt hdepth

/-- A search from scratch ends as the attempt does. -/
theorem attempt_of_augment :
    Attempt edges seeker (edges seeker) owners []
      (.of owners (augment edges owners depth seeker [])) := by
  refine augment_attempt (fun ho => hlt _ ?_) (hlt seeker (Finset.mem_insert_self _ _))
    ((card_unseen_le_items items []).trans hdepth)
  exact Finset.mem_insert_of_mem (Owners.mem_seekers.mpr ⟨_, ho⟩)

theorem Attempt.augment_eq (h : Attempt edges seeker (edges seeker) owners [] ending) :
    augment edges owners depth seeker []
      = (if ending.found then some ending.owners else none, ending.seen) := by
  obtain rfl := h.unique (attempt_of_augment hlt hdepth)
  cases augment edges owners depth seeker [] with
  | mk result seen => cases result <;> rfl

end Depth

/-- An attempt that succeeds moves the owners along a path. -/
theorem Attempt.reroutes (h : Attempt edges seeker (edges seeker) owners [] ending)
    (hfound : ending.found = true) : Reroutes edges owners [] seeker ending.owners := by
  obtain ⟨items, hlt⟩ := exists_items edges owners seeker
  have heq := h.augment_eq hlt (Nat.le_refl items)
  rw [if_pos hfound] at heq
  exact augment_some heq

/-- **An attempt succeeds exactly if an alternating path leads to a free item.** -/
theorem Attempt.found_iff (h : Attempt edges seeker (edges seeker) owners [] ending) :
    ending.found = true ↔ ∃ path, path.Nodup ∧ AlternatingPath edges owners seeker path := by
  constructor
  · intro hfound
    obtain ⟨path, hnodup, -, hpath⟩ := (h.reroutes hfound).exists_alternatingPath
    exact ⟨path, hnodup, hpath⟩
  · rintro ⟨path, -, hpath⟩
    by_contra hfails
    obtain ⟨hsub, hclosed⟩ := h.exhausts (Bool.eq_false_iff.mpr hfails)
    exact hclosed.not_alternatingPath hsub hpath

/-- **An attempt of a seeker that owns nothing augments the owners if that can be done.** It has one
end. It succeeds exactly if there is an alternating path from the seeker to a free item. Then every
owner has one item, along an edge, and the seeker and one item are all that is new; otherwise the
owners are as before. A search that may go as deep as there are items returns just that. -/
theorem attempt_augments (edges : Nat → List Nat) (owners : Owners) (seeker : Nat)
    (h : owners.Along edges []) (hs : seeker ∉ owners.seekers) :
    ∃ ending : Ending,
      (∀ other, Attempt edges seeker (edges seeker) owners [] other ↔ other = ending) ∧
      (ending.found = true ↔ ∃ path, path.Nodup ∧ AlternatingPath edges owners seeker path) ∧
      (ending.found = true → ending.owners.Along edges [] ∧
        ending.owners.seekers = insert seeker owners.seekers ∧
        ∃ item ∉ owners.owned, ending.owners.owned = insert item owners.owned) ∧
      (ending.found = false → ending.owners = owners) ∧
      ∀ items, (∀ i ∈ insert seeker owners.seekers, ∀ item ∈ edges i, item < items) →
        ∀ depth, items ≤ depth → augment edges owners depth seeker []
          = (if ending.found then some ending.owners else none, ending.seen) := by
  obtain ⟨items, hlt⟩ := exists_items edges owners seeker
  have hattempt := attempt_of_augment hlt (Nat.le_refl items)
  refine ⟨_, fun other => ⟨fun hother => hother.unique hattempt, ?_⟩, hattempt.found_iff, ?_,
    hattempt.owners_eq, fun items hlt depth hdepth => hattempt.augment_eq hlt hdepth⟩
  · rintro rfl
    exact hattempt
  · intro hfound
    have hpath := hattempt.reroutes hfound
    obtain ⟨halong, hseekers⟩ := hpath.augments h hs
    exact ⟨halong, hseekers, hpath.exists_owned⟩

/-- The seeker tries the item 0 first, whose owner is stuck. The owner of the item 1 finds the item 0
seen and takes the item 2. -/
theorem attempt_augments_past_stuck_owner :
    ((Owners.empty.give 0 0).give 1 1).Along (fun i => [[0], [0, 1, 2], [0, 1]].getD i []) [] ∧
    2 ∉ ((Owners.empty.give 0 0).give 1 1).seekers ∧
    ∃ ending : Ending,
      Attempt (fun i => [[0], [0, 1, 2], [0, 1]].getD i []) 2 [0, 1]
        ((Owners.empty.give 0 0).give 1 1) [] ending ∧
      ending.found = true ∧ ending.owners.seekers = {0, 1, 2} ∧
      augment (fun i => [[0], [0, 1, 2], [0, 1]].getD i [])
        ((Owners.empty.give 0 0).give 1 1) 3 2 [] = (some ending.owners, ending.seen) := by
  have hone : (Owners.empty.give 0 0).Along (fun i => [[0], [0, 1, 2], [0, 1]].getD i []) [] :=
    (Reroutes.augments (.take List.not_mem_nil (by decide) rfl) (Owners.along_empty _)
      (by decide)).1
  have htwo : ((Owners.empty.give 0 0).give 1 1).Along
      (fun i => [[0], [0, 1, 2], [0, 1]].getD i []) [] :=
    (Reroutes.augments (.take List.not_mem_nil (by decide) rfl) hone (by decide)).1
  have hnew : 2 ∉ ((Owners.empty.give 0 0).give 1 1).seekers := by decide
  obtain ⟨ending, hends, hfound, hjoins, -, hsearch⟩ := attempt_augments _ _ _ htwo hnew
  have hpath : AlternatingPath (fun i => [[0], [0, 1, 2], [0, 1]].getD i [])
      ((Owners.empty.give 0 0).give 1 1) 2 [1, 2] :=
    .owned (by decide) rfl (.free (by decide) rfl)
  have hgot : ending.found = true := hfound.mpr ⟨_, by decide, hpath⟩
  have hseekers : ending.owners.seekers = {0, 1, 2} := (hjoins hgot).2.1.trans (by decide)
  refine ⟨htwo, hnew, ending, (hends ending).mpr rfl, hgot, hseekers, ?_⟩
  rw [hsearch 3 (by decide) 3 (Nat.le_refl 3), if_pos hgot]

end Assay.Matching
