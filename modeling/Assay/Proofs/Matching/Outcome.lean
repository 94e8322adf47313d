import Assay.Proofs.Matching.Rounds

/-!
# What the report says

The report in terms of the owners after the two rounds: who is matched, who has a wrong message, who
is missing, and how many diagnostics are left over. The partners are another matter; what is said
here of a list of pairs is said of the expectations in it, in their order.
-/

namespace Assay.Matching

variable {expected : List Expectation} {actual : List Diagnostic} {t : Text}

/-! ## Indices with their items -/

theorem mem_pairs_iff {item : Nat → Option Nat} {indices : List Nat} {i j : Nat} :
    (i, j) ∈ (indices.filterMap fun i => (item i).map fun j => (i, j)) ↔
      i ∈ indices ∧ item i = some j := by
  rw [List.mem_filterMap]
  constructor
  · rintro ⟨k, hk, hm⟩
    obtain ⟨_, hi, he⟩ := Option.map_eq_some_iff.mp hm
    cases he
    exact ⟨hk, hi⟩
  · rintro ⟨hi, he⟩
    exact ⟨i, hi, by rw [he]; rfl⟩

/-- The indices whose pairs pass a test, in their order. -/
theorem map_fst_filter_pairs (item : Nat → Option Nat) (test : Nat × Nat → Bool)
    (indices : List Nat) :
    ((indices.filterMap fun i => (item i).map fun j => (i, j)).filter test).map Prod.fst
      = indices.filter fun i => (item i).any fun j => test (i, j) := by
  induction indices with
  | nil => rfl
  | cons i indices ih =>
    cases hi : item i with
    | none =>
      rw [List.filterMap_cons_none (by rw [hi]; rfl), List.filter_cons_of_neg (by simp [hi])]
      exact ih
    | some j =>
      rw [List.filterMap_cons_some (by rw [hi]; rfl)]
      by_cases ht : test (i, j) = true
      · rw [List.filter_cons_of_pos ht, List.filter_cons_of_pos (by simp [hi, ht]), List.map_cons,
          ih]
      · rw [List.filter_cons_of_neg ht, List.filter_cons_of_neg (by simp [hi, ht]), ih]

theorem itemOf?_bothRounds {i j : Nat} :
    (bothRounds expected actual t).itemOf? actual.length i = some j ↔
      (bothRounds expected actual t).owner? j = some i :=
  bothRounds_along.1.itemOf?_eq_some_iff lt_of_mem_fallbackEdges

theorem lt_of_owner? {i j : Nat} (h : (bothRounds expected actual t).owner? j = some i) :
    i < expected.length ∧ j < actual.length :=
  lt_of_mem_edgesOf (fallbackEdges_subset_locatedEdges (bothRounds_along.1.edge List.not_mem_nil h))

theorem mem_range_of_seekers {i : Nat} (h : i ∈ (bothRounds expected actual t).seekers) :
    i ∈ List.range expected.length :=
  List.mem_range.mpr (lt_of_mem_seekers h)

/-- A set of some indices of a list, as the indices of the list in it. -/
theorem toFinset_filter_mem {indices : List Nat} {s : Finset Nat} (h : ∀ i ∈ s, i ∈ indices) :
    (indices.filter (· ∈ s)).toFinset = s := by
  ext i
  rw [List.mem_toFinset, List.mem_filter, decide_eq_true_eq]
  exact ⟨fun hi => hi.2, fun hi => ⟨h i hi, hi⟩⟩

theorem length_filter_mem {indices : List Nat} {s : Finset Nat} (hnodup : indices.Nodup)
    (h : ∀ i ∈ s, i ∈ indices) : (indices.filter (· ∈ s)).length = s.card := by
  rw [← List.toFinset_card_of_nodup (hnodup.filter _), toFinset_filter_mem h]

/-! ## Matched expectations -/

theorem mem_matched_iff {i j : Nat} :
    (i, j) ∈ (matchDiagnostics expected actual t).matched ↔
      (bothRounds expected actual t).owner? j = some i ∧
        i ∈ (firstRound expected actual t).seekers := by
  simp only [matchDiagnostics, reportOf, List.mem_filter, mem_pairs_iff, List.mem_range,
    itemOf?_bothRounds]
  constructor
  · rintro ⟨⟨_, ho⟩, ha⟩
    exact ⟨ho, (agreesAt_iff ho).mp ha⟩
  · rintro ⟨ho, hi⟩
    exact ⟨⟨(lt_of_owner? ho).1, ho⟩, (agreesAt_iff ho).mpr hi⟩

theorem exists_mem_matched_iff {i : Nat} :
    (∃ j, (i, j) ∈ (matchDiagnostics expected actual t).matched) ↔
      i ∈ (firstRound expected actual t).seekers := by
  constructor
  · rintro ⟨j, hj⟩
    exact (mem_matched_iff.mp hj).2
  · intro hi
    obtain ⟨j, ho⟩ := Owners.mem_seekers.mp (seekers_firstRound_subset hi)
    exact ⟨j, mem_matched_iff.mpr ⟨ho, hi⟩⟩

/-- **The matched expectations are those that are met in the first round.** -/
theorem map_fst_matched :
    (matchDiagnostics expected actual t).matched.map Prod.fst
      = (List.range expected.length).filter (· ∈ (firstRound expected actual t).seekers) := by
  refine (map_fst_filter_pairs _ _ _).trans (List.filter_congr ?_)
  intro i _
  rw [Bool.eq_iff_iff, Option.any_eq_true, decide_eq_true_eq]
  constructor
  · rintro ⟨j, hj, ha⟩
    exact (agreesAt_iff (itemOf?_bothRounds.mp hj)).mp ha
  · intro hi
    obtain ⟨j, ho⟩ := Owners.mem_seekers.mp (seekers_firstRound_subset hi)
    exact ⟨j, itemOf?_bothRounds.mpr ho, (agreesAt_iff ho).mpr hi⟩

theorem toFinset_map_fst_matched :
    ((matchDiagnostics expected actual t).matched.map Prod.fst).toFinset
      = (firstRound expected actual t).seekers := by
  rw [map_fst_matched]
  exact toFinset_filter_mem fun i hi => mem_range_of_seekers (seekers_firstRound_subset hi)

theorem length_matched :
    (matchDiagnostics expected actual t).matched.length
      = (firstRound expected actual t).seekers.card := by
  rw [← List.length_map Prod.fst, map_fst_matched]
  exact length_filter_mem List.nodup_range
    fun i hi => mem_range_of_seekers (seekers_firstRound_subset hi)

/-! ## Wrong messages -/

theorem mem_wrongMessage_iff {i j : Nat} :
    (i, j) ∈ (matchDiagnostics expected actual t).wrongMessage ↔
      (bothRounds expected actual t).owner? j = some i ∧
        i ∉ (firstRound expected actual t).seekers := by
  simp only [matchDiagnostics, reportOf, List.mem_filter, mem_pairs_iff, List.mem_range,
    itemOf?_bothRounds, Bool.not_eq_true']
  constructor
  · rintro ⟨⟨_, ho⟩, ha⟩
    exact ⟨ho, fun hi => by simp [(agreesAt_iff ho).mpr hi] at ha⟩
  · rintro ⟨ho, hi⟩
    exact ⟨⟨(lt_of_owner? ho).1, ho⟩, by simpa using fun ha => hi ((agreesAt_iff ho).mp ha)⟩

/-- **The expectations with a wrong message are those that get their diagnostic in the second
round.** -/
theorem map_fst_wrongMessage :
    (matchDiagnostics expected actual t).wrongMessage.map Prod.fst
      = (List.range expected.length).filter (· ∈
          (bothRounds expected actual t).seekers \ (firstRound expected actual t).seekers) := by
  refine (map_fst_filter_pairs _ _ _).trans (List.filter_congr ?_)
  intro i _
  rw [Bool.eq_iff_iff, Option.any_eq_true, decide_eq_true_eq, Finset.mem_sdiff]
  constructor
  · rintro ⟨j, hj, ha⟩
    have ho := itemOf?_bothRounds.mp hj
    refine ⟨Owners.mem_seekers.mpr ⟨j, ho⟩, fun hi => ?_⟩
    simp [(agreesAt_iff ho).mpr hi] at ha
  · rintro ⟨hi, hn⟩
    obtain ⟨j, ho⟩ := Owners.mem_seekers.mp hi
    exact ⟨j, itemOf?_bothRounds.mpr ho, by simpa using fun ha => hn ((agreesAt_iff ho).mp ha)⟩

/-- Matched expectations and wrong messages are all that have a diagnostic. -/
theorem length_matched_add_length_wrongMessage :
    (matchDiagnostics expected actual t).matched.length
      + (matchDiagnostics expected actual t).wrongMessage.length
        = (bothRounds expected actual t).seekers.card := by
  rw [length_matched, ← List.length_map Prod.fst, map_fst_wrongMessage,
    length_filter_mem List.nodup_range
      fun i hi => mem_range_of_seekers (Finset.mem_sdiff.mp hi).1, Nat.add_comm]
  exact Finset.card_sdiff_add_card_eq_card seekers_firstRound_subset

/-! ## Missing expectations and unexpected diagnostics -/

/-- **The missing expectations are those without a diagnostic after both rounds.** -/
theorem missing_eq :
    (matchDiagnostics expected actual t).missing
      = (List.range expected.length).filter (· ∉ (bothRounds expected actual t).seekers) := by
  refine List.filter_congr ?_
  intro i _
  rw [Bool.eq_iff_iff, decide_eq_true_eq, ← bothRounds_along.1.isSome_itemOf?_iff
    lt_of_mem_fallbackEdges, Option.isNone_iff_eq_none, Option.not_isSome_iff_eq_none]

/-- The expectations with a diagnostic and the missing ones are all expectations. -/
theorem length_missing :
    (matchDiagnostics expected actual t).missing.length
      + (bothRounds expected actual t).seekers.card = expected.length := by
  have hsub : (bothRounds expected actual t).seekers ⊆ Finset.range expected.length :=
    fun i hi => Finset.mem_range.mpr (lt_of_mem_seekers hi)
  have hrest : (matchDiagnostics expected actual t).missing.toFinset
      = Finset.range expected.length \ (bothRounds expected actual t).seekers := by
    ext i
    simp [missing_eq]
  have hnodup : (matchDiagnostics expected actual t).missing.Nodup := List.nodup_range.filter _
  rw [← List.toFinset_card_of_nodup hnodup, hrest, Finset.card_sdiff_add_card_eq_card hsub,
    Finset.card_range]

theorem mem_unexpected_iff {j : Nat} :
    j ∈ (matchDiagnostics expected actual t).unexpected ↔
      j < actual.length ∧ (bothRounds expected actual t).owner? j = none := by
  simp [matchDiagnostics, reportOf]

/-- The unexpected diagnostics and those that an expectation has are all diagnostics. -/
theorem length_unexpected :
    (matchDiagnostics expected actual t).unexpected.length
      + (bothRounds expected actual t).seekers.card = actual.length := by
  have hnodup : (matchDiagnostics expected actual t).unexpected.Nodup :=
    List.nodup_range.filter _
  have hfree : (matchDiagnostics expected actual t).unexpected.toFinset =
      (Finset.range actual.length).filter
        fun j => ¬ ((bothRounds expected actual t).owner? j).isSome = true := by
    ext j
    rw [List.mem_toFinset, mem_unexpected_iff, Finset.mem_filter, Finset.mem_range,
      Option.not_isSome_iff_eq_none]
  rw [← bothRounds_along.1.card_owned lt_of_mem_fallbackEdges,
    ← List.toFinset_card_of_nodup hnodup, hfree, Nat.add_comm,
    Finset.card_filter_add_card_filter_not, Finset.card_range]

/-! ## The lists of the report together -/

/-- **Each expectation is matched, has a wrong message, or is missing.** -/
theorem length_expected (expected : List Expectation) (actual : List Diagnostic) (t : Text) :
    (matchDiagnostics expected actual t).matched.length
      + (matchDiagnostics expected actual t).wrongMessage.length
      + (matchDiagnostics expected actual t).missing.length = expected.length := by
  rw [length_matched_add_length_wrongMessage, Nat.add_comm, length_missing]

/-- **Each diagnostic is in one pair or unexpected.** -/
theorem length_actual (expected : List Expectation) (actual : List Diagnostic) (t : Text) :
    (matchDiagnostics expected actual t).matched.length
      + (matchDiagnostics expected actual t).wrongMessage.length
      + (matchDiagnostics expected actual t).unexpected.length = actual.length := by
  rw [length_matched_add_length_wrongMessage, Nat.add_comm, length_unexpected]

end Assay.Matching
