import Assay.Proofs.Matching.Outcome
import Mathlib.Data.List.Nodup

/-!
# The report as an account

A report gives an account of its input: it names every expectation once and every diagnostic once,
in their order, and it says of every pair what the pair is (`accounts_matchDiagnostics`). It also
leaves no pair out that is still to be had: no missing expectation is where an unexpected diagnostic
of its id is. This does not say that as few expectations are missing as can be, only that none of
them could simply be given what is left over.
-/

namespace Assay.Matching

variable {expected : List Expectation} {actual : List Diagnostic} {t : Text}

/-! ## What is left over on both sides -/

/-- An expectation without a diagnostic can take none of those that are left over. -/
theorem notMem_locatedEdges_of_free {i j : Nat} (hi : i < expected.length)
    (hmissing : i ∉ (bothRounds expected actual t).seekers)
    (hfree : (bothRounds expected actual t).owner? j = none) :
    j ∉ locatedEdges expected actual t i := by
  intro hedge
  have hunmet : i ∉ (firstRound expected actual t).seekers :=
    fun hm => hmissing (seekers_firstRound_subset hm)
  -- with the free diagnostic it could have joined the second round
  have hplace : Placeable (fallbackEdges expected actual t)
      (insert i (bothRounds expected actual t).seekers) := by
    refine ((bothRounds expected actual t).give j i).placeable_of_owned ?_
    intro k hk
    rcases Finset.mem_insert.mp hk with rfl | hk
    · rw [fallbackEdges_of_unmet hunmet]
      exact ⟨j, hedge, Owners.owner?_give_same _ _ _⟩
    · obtain ⟨item, ho⟩ := Owners.mem_seekers.mp hk
      have hne : item ≠ j := by
        rintro rfl
        rw [hfree] at ho
        cases ho
      exact ⟨item, bothRounds_along.1.edge List.not_mem_nil ho,
        by rw [Owners.owner?_give_other _ _ hne]; exact ho⟩
  rw [bothRounds_along.2] at hmissing hplace
  exact not_placeable_of_notMem_extendAll (mem_unmet.mpr ⟨hi, hunmet⟩) hmissing hplace

/-! ## The pairs -/

/-- The pairs of the report, matched or with a wrong message, are the owners with what they own. -/
theorem mem_matched_append_wrongMessage_iff {i j : Nat} :
    (i, j) ∈ (matchDiagnostics expected actual t).matched
        ++ (matchDiagnostics expected actual t).wrongMessage ↔
      (bothRounds expected actual t).owner? j = some i := by
  rw [List.mem_append, mem_matched_iff, mem_wrongMessage_iff, ← and_or_left, and_iff_left]
  exact Classical.em _

/-- The two sides of a pair are where the expectation asks for its diagnostic. -/
theorem exists_of_owner? {i j : Nat} (h : (bothRounds expected actual t).owner? j = some i) :
    ∃ e d, expected[i]? = some e ∧ actual[j]? = some d ∧ d.id = e.id ∧
      e.locator.matchesSpan d.span t = true := by
  have hedge := fallbackEdges_subset_locatedEdges (bothRounds_along.1.edge List.not_mem_nil h)
  obtain ⟨e, d, he, hd, hl⟩ := mem_edgesOf.mp hedge
  exact ⟨e, d, he, hd, locates_iff.mp hl⟩

theorem agreesAt_eq {i j : Nat} {e : Expectation} {d : Diagnostic} (he : expected[i]? = some e)
    (hd : actual[j]? = some d) : agreesAt expected actual i j = e.agrees d := by
  rw [agreesAt, he, hd]

/-- A diagnostic does not agree with an expectation exactly if another message is asked for. -/
theorem not_agrees_iff {e : Expectation} {d : Diagnostic} :
    ¬ e.agrees d = true ↔ ∃ message, e.message = some message ∧ d.message ≠ message := by
  simp [agrees_iff]

/-! ## Every index once -/

/-- The expectations of the report, list by list, are all expectations. -/
theorem expectations_perm (expected : List Expectation) (actual : List Diagnostic) (t : Text) :
    ((matchDiagnostics expected actual t).matched.map Prod.fst
      ++ (matchDiagnostics expected actual t).wrongMessage.map Prod.fst
      ++ (matchDiagnostics expected actual t).missing).Perm (List.range expected.length) := by
  rw [map_fst_matched, map_fst_wrongMessage, missing_eq]
  refine (List.perm_ext_iff_of_nodup ?_ List.nodup_range).mpr ?_
  · have hfirst := @seekers_firstRound_subset expected actual t
    simp only [List.nodup_append, List.mem_append, List.mem_filter, decide_eq_true_eq,
      Finset.mem_sdiff]
    refine ⟨⟨List.nodup_range.filter _, List.nodup_range.filter _, ?_⟩,
      List.nodup_range.filter _, ?_⟩
    · rintro i ⟨_, hi⟩ _ ⟨_, _, hn⟩ rfl
      exact hn hi
    · rintro i hi _ ⟨_, hn⟩ rfl
      rcases hi with ⟨_, hi⟩ | ⟨_, hi, _⟩
      · exact hn (hfirst hi)
      · exact hn hi
  · intro i
    simp only [List.mem_append, List.mem_filter, decide_eq_true_eq, Finset.mem_sdiff]
    tauto

theorem nodup_matched_append_wrongMessage :
    ((matchDiagnostics expected actual t).matched
      ++ (matchDiagnostics expected actual t).wrongMessage).Nodup := by
  have hall := (expectations_perm expected actual t).nodup_iff.mpr List.nodup_range
  rw [← List.map_append] at hall
  exact (hall.of_append_left).of_map

/-- The diagnostics of the report, list by list, are all diagnostics. -/
theorem diagnostics_perm (expected : List Expectation) (actual : List Diagnostic) (t : Text) :
    ((matchDiagnostics expected actual t).matched.map Prod.snd
      ++ (matchDiagnostics expected actual t).wrongMessage.map Prod.snd
      ++ (matchDiagnostics expected actual t).unexpected).Perm (List.range actual.length) := by
  rw [← List.map_append]
  refine (List.perm_ext_iff_of_nodup ?_ List.nodup_range).mpr ?_
  · refine List.nodup_append.mpr ⟨?_, List.nodup_range.filter _, ?_⟩
    · -- a diagnostic has one owner, so pairs with one diagnostic are one pair
      refine nodup_matched_append_wrongMessage.map_on ?_
      rintro ⟨i, j⟩ hp ⟨i', _⟩ hq rfl
      rw [mem_matched_append_wrongMessage_iff] at hp hq
      rw [Option.some.inj (hp.symm.trans hq)]
    · rintro j hj _ hk rfl
      obtain ⟨⟨i, j⟩, hp, rfl⟩ := List.mem_map.mp hj
      rw [mem_unexpected_iff, mem_matched_append_wrongMessage_iff.mp hp] at hk
      cases hk.2
  · intro j
    rw [List.mem_append, List.mem_map, mem_unexpected_iff, List.mem_range]
    constructor
    · rintro (⟨⟨i, j⟩, hp, rfl⟩ | ⟨hj, _⟩)
      · exact (lt_of_owner? (mem_matched_append_wrongMessage_iff.mp hp)).2
      · exact hj
    · intro hj
      cases ho : (bothRounds expected actual t).owner? j with
      | none => exact Or.inr ⟨hj, rfl⟩
      | some i => exact Or.inl ⟨(i, j), mem_matched_append_wrongMessage_iff.mpr ho, rfl⟩

/-! ## The account -/

/-- What a report accounts for: every expectation and every diagnostic once and in order, and what
kind of pair each of its pairs is. -/
structure Report.Accounts (expected : List Expectation) (actual : List Diagnostic) (t : Text)
    (r : Report) : Prop where
  /-- Every expectation is matched, has a wrong message or is missing, and only one of these. -/
  expectations : (r.matched.map Prod.fst ++ r.wrongMessage.map Prod.fst ++ r.missing).Perm
    (List.range expected.length)
  /-- Every diagnostic is in one pair or unexpected, and not both. -/
  diagnostics : (r.matched.map Prod.snd ++ r.wrongMessage.map Prod.snd ++ r.unexpected).Perm
    (List.range actual.length)
  matched_sorted : (r.matched.map Prod.fst).Pairwise (· < ·)
  wrongMessage_sorted : (r.wrongMessage.map Prod.fst).Pairwise (· < ·)
  missing_sorted : r.missing.Pairwise (· < ·)
  unexpected_sorted : r.unexpected.Pairwise (· < ·)
  /-- Matched is what has the id, is at the place and has the message, if one is asked for. -/
  matched : ∀ i j, (i, j) ∈ r.matched → ∃ e d, expected[i]? = some e ∧ actual[j]? = some d ∧
    d.id = e.id ∧ e.locator.matchesSpan d.span t = true ∧
    ∀ message, e.message = some message → d.message = message
  /-- A wrong message is another message than the one that is asked for, at the place. -/
  wrongMessage : ∀ i j, (i, j) ∈ r.wrongMessage → ∃ e d message, expected[i]? = some e ∧
    actual[j]? = some d ∧ d.id = e.id ∧ e.locator.matchesSpan d.span t = true ∧
    e.message = some message ∧ d.message ≠ message
  /-- What is missing and what is unexpected do not go together. -/
  leftOver : ∀ i ∈ r.missing, ∀ j ∈ r.unexpected, ∀ e d, expected[i]? = some e →
    actual[j]? = some d → ¬ (d.id = e.id ∧ e.locator.matchesSpan d.span t = true)

/-- **The report of matching loses nothing and lists nothing twice.** Every expectation and every
diagnostic has its one place in it, the pairs are what they are said to be, and no two of those that
are left over could be paired. -/
theorem accounts_matchDiagnostics (expected : List Expectation) (actual : List Diagnostic)
    (t : Text) : (matchDiagnostics expected actual t).Accounts expected actual t where
  expectations := expectations_perm expected actual t
  diagnostics := diagnostics_perm expected actual t
  matched_sorted := by
    rw [map_fst_matched]
    exact List.pairwise_lt_range.filter _
  wrongMessage_sorted := by
    rw [map_fst_wrongMessage]
    exact List.pairwise_lt_range.filter _
  missing_sorted := List.pairwise_lt_range.filter _
  unexpected_sorted := List.pairwise_lt_range.filter _
  matched := by
    intro i j h
    obtain ⟨howner, hmet⟩ := mem_matched_iff.mp h
    obtain ⟨e, d, he, hd, hid, hplace⟩ := exists_of_owner? howner
    have hagree := (agreesAt_iff howner).mpr hmet
    rw [agreesAt_eq he hd, agrees_iff] at hagree
    exact ⟨e, d, he, hd, hid, hplace, hagree⟩
  wrongMessage := by
    intro i j h
    obtain ⟨howner, hunmet⟩ := mem_wrongMessage_iff.mp h
    obtain ⟨e, d, he, hd, hid, hplace⟩ := exists_of_owner? howner
    have hwrong := mt (agreesAt_iff howner).mp hunmet
    rw [agreesAt_eq he hd, not_agrees_iff] at hwrong
    obtain ⟨message, hm, hne⟩ := hwrong
    exact ⟨e, d, message, he, hd, hid, hplace, hm, hne⟩
  leftOver := by
    intro i hi j hj e d he hd hlocated
    rw [missing_eq, List.mem_filter, List.mem_range, decide_eq_true_eq] at hi
    refine notMem_locatedEdges_of_free hi.1 hi.2 (mem_unexpected_iff.mp hj).2 ?_
    exact mem_edgesOf.mpr ⟨e, d, he, hd, locates_iff.mpr hlocated⟩

end Assay.Matching
