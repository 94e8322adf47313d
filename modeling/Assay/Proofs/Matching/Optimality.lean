import Assay.Proofs.Matching.Outcome
import Mathlib.Order.Bounds.Basic

/-!
# How good the pairs are

The pairs of a report are compared with all pairings of expectations and diagnostics, said without
the search. The matched expectations are as many as possible, among the first ones of the list as
among all of them. As long as they keep their messages, no pairing gives more expectations a
diagnostic.

The latter is no statement on all pairings with as many messages right. Who is matched is settled
by the order of the expectations, and another choice might leave room for one more pair with a
wrong message.
-/

namespace Assay.Matching

variable {expected : List Expectation} {actual : List Diagnostic} {t : Text}
  {edges : Nat → List Nat} {s : Finset Nat}

/-! ## Pairings -/

/-- Pairs of an expectation and a diagnostic that pass a test, in which nothing occurs twice. -/
structure Pairing (test : Expectation → Diagnostic → Bool) (expected : List Expectation)
    (actual : List Diagnostic) (pairs : Finset (Nat × Nat)) : Prop where
  edge : ∀ p ∈ pairs, ∃ e d, expected[p.1]? = some e ∧ actual[p.2]? = some d ∧ test e d = true
  left : Set.InjOn Prod.fst (pairs : Set (Nat × Nat))
  right : Set.InjOn Prod.snd (pairs : Set (Nat × Nat))

namespace Pairing

variable {test : Expectation → Diagnostic → Bool} {pairs : Finset (Nat × Nat)}

theorem mem_edgesOf (h : Pairing test expected actual pairs) {p : Nat × Nat} (hp : p ∈ pairs) :
    p.2 ∈ edgesOf test expected actual p.1 :=
  Matching.mem_edgesOf.mpr (h.edge p hp)

/-- The expectations of a pairing can be placed along all edges that hold its pairs. -/
theorem placeable (h : Pairing test expected actual pairs) (hedge : ∀ p ∈ pairs, p.2 ∈ edges p.1) :
    Placeable edges (pairs.image Prod.fst) := by
  refine placeable_of_exists (fun i j => (i, j) ∈ pairs) ?_ ?_
  · intro i j item hi hj
    exact congrArg Prod.fst (h.right hi hj rfl)
  · intro i hi
    obtain ⟨p, hp, rfl⟩ := Finset.mem_image.mp hi
    exact ⟨p.2, hedge p hp, hp⟩

/-- The located pairs that agree on the message are what is asked for. -/
theorem filter_agreesAt (h : Pairing (fun e d => e.locates t d) expected actual pairs) :
    Pairing (fun e d => e.fits t d) expected actual
      (pairs.filter fun p => agreesAt expected actual p.1 p.2 = true) where
  edge p hp := by
    obtain ⟨hp, hagree⟩ := Finset.mem_filter.mp hp
    exact Matching.mem_edgesOf.mp (mem_exactEdges_iff.mpr ⟨h.mem_edgesOf hp, hagree⟩)
  left := h.left.mono (Finset.filter_subset _ _)
  right := h.right.mono (Finset.filter_subset _ _)

theorem card_image_fst (h : Pairing test expected actual pairs) :
    (pairs.image Prod.fst).card = pairs.card :=
  Finset.card_image_of_injOn h.left

end Pairing

/-- A set that can be placed is the left side of a pairing. -/
theorem Placeable.exists_pairing {test : Expectation → Diagnostic → Bool} (h : Placeable edges s)
    (hedge : ∀ i ∈ s, edges i ⊆ edgesOf test expected actual i) :
    ∃ pairs, Pairing test expected actual pairs ∧ (∀ p ∈ pairs, p.2 ∈ edges p.1) ∧
      pairs.image Prod.fst = s := by
  obtain ⟨place, hinj, hmem⟩ := h
  have hpair : ∀ p ∈ s.image fun i => (i, place i), p.1 ∈ s ∧ p.2 = place p.1 := by
    intro p hp
    obtain ⟨i, hi, rfl⟩ := Finset.mem_image.mp hp
    exact ⟨hi, rfl⟩
  refine ⟨s.image fun i => (i, place i), ⟨?_, ?_, ?_⟩, ?_, ?_⟩
  · intro p hp
    obtain ⟨hi, hj⟩ := hpair p hp
    rw [hj]
    exact Matching.mem_edgesOf.mp (hedge _ hi (hmem _ hi))
  · intro p hp q hq he
    have he : p.1 = q.1 := he
    exact Prod.ext he (by rw [(hpair p hp).2, (hpair q hq).2, he])
  · intro p hp q hq he
    have he : p.2 = q.2 := he
    rw [(hpair p hp).2, (hpair q hq).2] at he
    have hfst : p.1 = q.1 := hinj (hpair p hp).1 (hpair q hq).1 he
    exact Prod.ext hfst (by rw [(hpair p hp).2, (hpair q hq).2, hfst])
  · intro p hp
    rw [(hpair p hp).2]
    exact hmem _ (hpair p hp).1
  · rw [Finset.image_image]
    exact Finset.image_id

/-! ## The matched expectations -/

/-- Of the first expectations, the ones that are met in the first round are as many as can be. -/
theorem card_le_of_placeable_exactEdges {first : Nat} (h : first ≤ expected.length)
    (hs : Placeable (exactEdges expected actual t) s) (hlt : ∀ i ∈ s, i < first) :
    s.card ≤ ((firstRound expected actual t).seekers.filter (· < first)).card := by
  rw [firstRound_along.2, extendAll_range_filter h]
  exact (Owners.along_empty _).card_le_extendAll lt_of_mem_exactEdges List.nodup_range (by simp) hs
    (fun i hi => Or.inr (List.mem_range.mpr (hlt i hi)))

/-- The first expectations of a list have the edges that they have in the whole list. -/
theorem exactEdges_take {k i : Nat} (h : i < k) :
    exactEdges (expected.take k) actual t i = exactEdges expected actual t i := by
  unfold exactEdges edgesOf
  rw [List.getElem?_take_of_lt h]

theorem isGreatest_met_below (expected : List Expectation) (actual : List Diagnostic) (t : Text)
    (k : Nat) :
    IsGreatest
      {n | ∃ pairs, Pairing (fun e d => e.fits t d) (expected.take k) actual pairs ∧ pairs.card = n}
      ((firstRound expected actual t).seekers.filter (· < k)).card := by
  constructor
  · have hplace : Placeable (exactEdges expected actual t)
        ((firstRound expected actual t).seekers.filter (· < k)) :=
      firstRound_along.1.placeable.mono (Finset.filter_subset _ _)
    have hedge : ∀ i ∈ (firstRound expected actual t).seekers.filter (· < k),
        exactEdges expected actual t i
          ⊆ edgesOf (fun e d => e.fits t d) (expected.take k) actual i := by
      intro i hi j hj
      rwa [← exactEdges_take (Finset.mem_filter.mp hi).2] at hj
    obtain ⟨pairs, hpairs, _, himage⟩ := hplace.exists_pairing hedge
    exact ⟨pairs, hpairs, by rw [← himage, hpairs.card_image_fst]⟩
  · rintro n ⟨pairs, hpairs, rfl⟩
    have hlt : ∀ i ∈ pairs.image Prod.fst, i < min k expected.length := by
      intro i hi
      obtain ⟨p, hp, rfl⟩ := Finset.mem_image.mp hi
      rw [← List.length_take]
      exact (lt_of_mem_edgesOf (hpairs.mem_edgesOf hp)).1
    have hplace : Placeable (exactEdges expected actual t) (pairs.image Prod.fst) := by
      refine hpairs.placeable ?_
      intro p hp
      rw [← exactEdges_take ((hlt _ (Finset.mem_image_of_mem _ hp)).trans_le (min_le_left _ _))]
      exact hpairs.mem_edgesOf hp
    rw [← hpairs.card_image_fst]
    refine (card_le_of_placeable_exactEdges (min_le_right _ _) hplace hlt).trans ?_
    refine Finset.card_le_card (Finset.monotone_filter_right _ ?_)
    exact fun i _ hi => lt_of_lt_of_le hi (min_le_left _ _)

theorem isGreatest_length_matched (expected : List Expectation) (actual : List Diagnostic)
    (t : Text) :
    IsGreatest
      {n | ∃ pairs, Pairing (fun e d => e.fits t d) expected actual pairs ∧ pairs.card = n}
      (matchDiagnostics expected actual t).matched.length := by
  have hall : (firstRound expected actual t).seekers.filter (· < expected.length)
      = (firstRound expected actual t).seekers :=
    Finset.filter_true_of_mem fun i hi => lt_of_mem_seekers (seekers_firstRound_subset hi)
  have hmax := isGreatest_met_below expected actual t expected.length
  rwa [List.take_length, hall, ← length_matched] at hmax

/-- **The matched expectations are as many as possible.** Those with an index below `k` are as many
as a pairing of the first `k` expectations alone can meet; so all of them are as many as can be met
at all, and earlier expectations go first. The second round does not change who is matched. -/
theorem isGreatest_matched (expected : List Expectation) (actual : List Diagnostic) (t : Text) :
    (∀ k, IsGreatest
      {n | ∃ pairs, Pairing (fun e d => e.fits t d) (expected.take k) actual pairs ∧ pairs.card = n}
      (((matchDiagnostics expected actual t).matched.map Prod.fst).toFinset.filter (· < k)).card) ∧
    IsGreatest
      {n | ∃ pairs, Pairing (fun e d => e.fits t d) expected actual pairs ∧ pairs.card = n}
      (matchDiagnostics expected actual t).matched.length ∧
    ∀ i, (∃ j, (i, j) ∈ (matchDiagnostics expected actual t).matched) ↔
      ∃ j, (firstRound expected actual t).owner? j = some i := by
  refine ⟨?_, isGreatest_length_matched expected actual t, ?_⟩
  · intro k
    rw [toFinset_map_fst_matched]
    exact isGreatest_met_below expected actual t k
  · intro i
    rw [← Owners.mem_seekers]
    exact exists_mem_matched_iff

/-! ## All expectations with a diagnostic -/

/-- After the second round, no more expectations can be placed along its edges. -/
theorem card_le_of_placeable_fallbackEdges (hs : Placeable (fallbackEdges expected actual t) s)
    (hlt : ∀ i ∈ s, i < expected.length) :
    s.card ≤ (bothRounds expected actual t).seekers.card := by
  rw [bothRounds_along.2]
  refine firstRound_along_fallbackEdges.card_le_extendAll lt_of_mem_fallbackEdges nodup_unmet
    (fun _ hi => (mem_unmet.mp hi).2) hs ?_
  intro i hi
  by_cases hmet : i ∈ (firstRound expected actual t).seekers
  · exact Or.inl hmet
  · exact Or.inr (mem_unmet.mpr ⟨hlt i hi, hmet⟩)

/-- **While the matched expectations keep their messages, no pairing gives more expectations a
diagnostic.** No pairing at all has more messages right than the report. Among those in which every
matched expectation gets a diagnostic that agrees on the message, the most expectations that have
one are the matched ones with those of a wrong message. -/
theorem isGreatest_pairs (expected : List Expectation) (actual : List Diagnostic) (t : Text) :
    (∀ pairs, Pairing (fun e d => e.locates t d) expected actual pairs →
      (pairs.filter fun p => agreesAt expected actual p.1 p.2 = true).card
        ≤ (matchDiagnostics expected actual t).matched.length) ∧
    IsGreatest
      {n | ∃ pairs, Pairing (fun e d => e.locates t d) expected actual pairs ∧
        (∀ p ∈ (matchDiagnostics expected actual t).matched,
          ∃ q ∈ pairs, q.1 = p.1 ∧ agreesAt expected actual q.1 q.2 = true) ∧ pairs.card = n}
      ((matchDiagnostics expected actual t).matched.length
        + (matchDiagnostics expected actual t).wrongMessage.length) := by
  refine ⟨?_, ?_, ?_⟩
  · intro pairs hpairs
    exact (isGreatest_length_matched expected actual t).2 ⟨_, hpairs.filter_agreesAt, rfl⟩
  · obtain ⟨pairs, hpairs, hedge, himage⟩ :=
      bothRounds_along.1.placeable.exists_pairing fun _ _ => fallbackEdges_subset_locatedEdges
    refine ⟨pairs, hpairs, ?_, ?_⟩
    · rintro ⟨i, j⟩ hp
      have hmet := (mem_matched_iff.mp hp).2
      obtain ⟨q, hq, rfl⟩ := Finset.mem_image.mp (himage ▸ seekers_firstRound_subset hmet)
      have hexact := hedge q hq
      rw [fallbackEdges_of_met hmet] at hexact
      exact ⟨q, hq, rfl, (mem_exactEdges_iff.mp hexact).2⟩
    · rw [← hpairs.card_image_fst, himage, length_matched_add_length_wrongMessage]
  · rintro n ⟨pairs, hpairs, hkeep, rfl⟩
    have hplace : Placeable (fallbackEdges expected actual t) (pairs.image Prod.fst) := by
      refine hpairs.placeable ?_
      intro p hp
      have hlocated := hpairs.mem_edgesOf hp
      by_cases hmet : p.1 ∈ (firstRound expected actual t).seekers
      · -- a matched expectation occurs once, so its pair is the one with its message
        obtain ⟨j, hj⟩ := exists_mem_matched_iff.mpr hmet
        obtain ⟨q, hq, he, hagree⟩ := hkeep _ hj
        rw [hpairs.left hq hp he] at hagree
        rw [fallbackEdges_of_met hmet]
        exact mem_exactEdges_iff.mpr ⟨hlocated, hagree⟩
      · rw [fallbackEdges_of_unmet hmet]
        exact hlocated
    rw [length_matched_add_length_wrongMessage, ← hpairs.card_image_fst]
    refine card_le_of_placeable_fallbackEdges hplace ?_
    intro i hi
    obtain ⟨p, hp, rfl⟩ := Finset.mem_image.mp hi
    exact (lt_of_mem_edgesOf (hpairs.mem_edgesOf hp)).1

/-- A pairing may have as many messages right and more pairs. Two expectations want the one
diagnostic with their message, and the first of them, who gets it, could do with the other. -/
theorem not_maximum_among_equally_exact :
    ¬ ∀ (expected : List Expectation) (actual : List Diagnostic) (t : Text)
        (pairs : Finset (Nat × Nat)), Pairing (fun e d => e.locates t d) expected actual pairs →
      (pairs.filter fun p => agreesAt expected actual p.1 p.2 = true).card
        = (matchDiagnostics expected actual t).matched.length →
      pairs.card ≤ (matchDiagnostics expected actual t).matched.length
        + (matchDiagnostics expected actual t).wrongMessage.length := by
  intro h
  have hpairs : Pairing (fun e d => e.locates [] d)
      [⟨"A", .line 1, some "m"⟩, ⟨"A", .span ⟨0, 1⟩, some "m"⟩]
      [⟨"A", ⟨0, 1⟩, "m", .warning⟩, ⟨"A", ⟨0, 2⟩, "x", .warning⟩] {(0, 1), (1, 0)} :=
    ⟨fun p hp => mem_edgesOf.mp (by revert p; decide), by decide, by decide⟩
  exact absurd (h _ _ _ _ hpairs (by decide)) (by decide)

end Assay.Matching
