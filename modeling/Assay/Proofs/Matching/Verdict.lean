import Assay.Matching.Verdict
import Assay.Proofs.Matching.Outcome
import Mathlib.Data.Fintype.EquivFin

/-!
# When a verdict is good

The demand on a list of expectations is met if each of them can have a diagnostic of its own that is
what it asks for. That is what `Report.ok` and the list of failures decide, although the search
never looks at a whole assignment. A strict verdict asks for more: that nothing else was reported,
or, where failures are listed, nothing else under an id that is expected.
-/

namespace Assay.Matching

variable {expected : List Expectation} {actual : List Diagnostic} {t : Text}

/-! ## Assignments -/

/-- Every expectation is given a diagnostic of its own that is what it asks for: one with its id, at
its place, with its message if it has one. -/
structure Fulfils (expected : List Expectation) (actual : List Diagnostic) (t : Text)
    (assign : Fin expected.length → Fin actual.length) : Prop where
  injective : Function.Injective assign
  id : ∀ i : Fin expected.length, actual[assign i].id = expected[i].id
  place : ∀ i : Fin expected.length,
    expected[i].locator.matchesSpan actual[assign i].span t = true
  message : ∀ i : Fin expected.length, ∀ message, expected[i].message = some message →
    actual[assign i].message = message

theorem fulfils_iff {assign : Fin expected.length → Fin actual.length} :
    Fulfils expected actual t assign ↔ Function.Injective assign ∧
      ∀ i : Fin expected.length, expected[i].fits t actual[assign i] = true := by
  simp only [fits_iff]
  constructor
  · exact fun h => ⟨h.injective, fun i => ⟨h.id i, h.place i, h.message i⟩⟩
  · exact fun ⟨hinj, h⟩ => ⟨hinj, fun i => (h i).1, fun i => (h i).2.1, fun i => (h i).2.2⟩

theorem exists_fulfils_iff_placeable :
    (∃ assign, Fulfils expected actual t assign) ↔
      Placeable (exactEdges expected actual t) (Finset.range expected.length) := by
  simp only [fulfils_iff]
  constructor
  · rintro ⟨assign, hinj, hfits⟩
    refine ⟨fun i => if hi : i < expected.length then assign ⟨i, hi⟩ else 0, ?_, ?_⟩
    · intro i hi j hj he
      have hi : i < expected.length := Finset.mem_range.mp hi
      have hj : j < expected.length := Finset.mem_range.mp hj
      simp only [dif_pos hi, dif_pos hj] at he
      exact congrArg Fin.val (hinj (Fin.ext he))
    · intro i hi
      have hi : i < expected.length := Finset.mem_range.mp hi
      simp only [dif_pos hi]
      exact mem_edgesOf.mpr ⟨_, _, List.getElem?_eq_getElem hi,
        List.getElem?_eq_getElem (assign ⟨i, hi⟩).isLt, hfits ⟨i, hi⟩⟩
  · rintro ⟨place, hinj, hmem⟩
    have hedge : ∀ i : Fin expected.length, place i ∈ exactEdges expected actual t i :=
      fun i => hmem i (Finset.mem_range.mpr i.isLt)
    refine ⟨fun i => ⟨place i, lt_of_mem_exactEdges (hedge i)⟩, ?_, ?_⟩
    · intro i j he
      refine Fin.ext (hinj ?_ ?_ (congrArg Fin.val he))
      · exact Finset.mem_coe.mpr (Finset.mem_range.mpr i.isLt)
      · exact Finset.mem_coe.mpr (Finset.mem_range.mpr j.isLt)
    · intro i
      obtain ⟨e, d, he, hd, hfits⟩ := mem_edgesOf.mp (hedge i)
      obtain ⟨_, rfl⟩ := List.getElem?_eq_some_iff.mp he
      obtain ⟨_, rfl⟩ := List.getElem?_eq_some_iff.mp hd
      exact hfits

/-- All expectations can have what they ask for exactly if all are matched. -/
theorem exists_fulfils_iff_length_matched :
    (∃ assign, Fulfils expected actual t assign) ↔
      (matchDiagnostics expected actual t).matched.length = expected.length := by
  have hsub : (firstRound expected actual t).seekers ⊆ Finset.range expected.length :=
    fun i hi => Finset.mem_range.mpr (lt_of_mem_seekers (seekers_firstRound_subset hi))
  rw [exists_fulfils_iff_placeable, length_matched]
  constructor
  · intro hp
    have hall : (firstRound expected actual t).seekers = Finset.range expected.length := by
      refine Finset.Subset.antisymm hsub ?_
      intro i hi
      exact mem_seekers_firstRound (Finset.mem_range.mp hi)
        (hp.mono (Finset.insert_subset hi hsub))
    rw [hall, Finset.card_range]
  · intro hcard
    have hall : (firstRound expected actual t).seekers = Finset.range expected.length :=
      Finset.eq_of_subset_of_card_le hsub (by rw [Finset.card_range, hcard])
    exact hall ▸ firstRound_along.1.placeable

/-- An assignment that uses every diagnostic is one of as many diagnostics as expectations. -/
theorem exists_fulfils_surjective_iff :
    (∃ assign, Fulfils expected actual t assign ∧ Function.Surjective assign) ↔
      (∃ assign, Fulfils expected actual t assign) ∧ expected.length = actual.length := by
  constructor
  · rintro ⟨assign, hf, hsurj⟩
    refine ⟨⟨assign, hf⟩, ?_⟩
    simpa using Fintype.card_of_bijective ⟨hf.injective, hsurj⟩
  · rintro ⟨⟨assign, hf⟩, hlen⟩
    have hcard : Fintype.card (Fin expected.length) = Fintype.card (Fin actual.length) := by
      simpa using hlen
    refine ⟨assign, hf, ?_⟩
    exact ((Fintype.bijective_iff_injective_and_card assign).mpr ⟨hf.injective, hcard⟩).2

/-! ## The verdict of a report -/

theorem ok_false_iff :
    (matchDiagnostics expected actual t).ok false = true ↔
      (matchDiagnostics expected actual t).matched.length = expected.length := by
  have hexpected := length_expected expected actual t
  simp only [Report.ok, Bool.not_false, Bool.true_or, Bool.and_true, Bool.and_eq_true,
    List.isEmpty_iff_length_eq_zero]
  omega

theorem ok_true_iff :
    (matchDiagnostics expected actual t).ok true = true ↔
      (matchDiagnostics expected actual t).matched.length = expected.length ∧
        expected.length = actual.length := by
  have hok : (matchDiagnostics expected actual t).ok true = true ↔
      (matchDiagnostics expected actual t).ok false = true ∧
        (matchDiagnostics expected actual t).unexpected.length = 0 := by
    simp [Report.ok]
  have hexpected := length_expected expected actual t
  have hactual := length_actual expected actual t
  rw [hok, ok_false_iff]
  omega

/-! ## Failures in words -/

/-- Whether the id of the diagnostic with an index is expected somewhere. -/
def idExpected (expected : List Expectation) (actual : List Diagnostic) (j : Nat) : Bool :=
  (actual[j]?).any fun d => expected.any fun e => e.id = d.id

/-- The unexpected diagnostics that count as failures: those of an id that is expected, if
`strict`. -/
def counted (expected : List Expectation) (actual : List Diagnostic) (t : Text) (strict : Bool) :
    List Nat :=
  if strict then (matchDiagnostics expected actual t).unexpected.filter (idExpected expected actual)
  else []

/-- Texts that word the failures of a report one by one: the missing expectations, then the wrong
messages, then the unexpected diagnostics that count. -/
structure Worded (expected : List Expectation) (actual : List Diagnostic) (t : Text) (strict : Bool)
    (file : String) (missing wrong unexpected : List String) : Prop where
  missing : List.Forall₂ (fun i text => ∃ e, expected[i]? = some e ∧ text = missingFailure e t file)
    (matchDiagnostics expected actual t).missing missing
  wrong : List.Forall₂
    (fun p text => ∃ e d, expected[p.1]? = some e ∧ actual[p.2]? = some d ∧
      text = wrongMessageFailure e d t file)
    (matchDiagnostics expected actual t).wrongMessage wrong
  unexpected : List.Forall₂
    (fun j text => ∃ d, actual[j]? = some d ∧ text = unexpectedFailure d t file)
    (counted expected actual t strict) unexpected

section Forall₂

variable {α β : Type} {R : α → β → Prop} {f : α → Option β} {p : α → Bool} {l : List α}

/-- If a function has a related value for the elements that pass a test and none for the others,
its values are related to the elements that pass. -/
theorem forall₂_filter_filterMap (hpass : ∀ a ∈ l, p a = true → ∃ b, f a = some b ∧ R a b)
    (hfail : ∀ a ∈ l, p a = false → f a = none) :
    List.Forall₂ R (l.filter p) (l.filterMap f) := by
  induction l with
  | nil => exact List.Forall₂.nil
  | cons a l ih =>
    have ih := ih (fun c hc => hpass c (List.mem_cons_of_mem _ hc))
      (fun c hc => hfail c (List.mem_cons_of_mem _ hc))
    cases ht : p a with
    | true =>
      obtain ⟨b, hb, hR⟩ := hpass a List.mem_cons_self ht
      rw [List.filter_cons_of_pos ht, List.filterMap_cons_some hb]
      exact List.Forall₂.cons hR ih
    | false =>
      rw [List.filter_cons_of_neg (by simp [ht]),
        List.filterMap_cons_none (hfail a List.mem_cons_self ht)]
      exact ih

theorem forall₂_filterMap (h : ∀ a ∈ l, ∃ b, f a = some b ∧ R a b) :
    List.Forall₂ R l (l.filterMap f) := by
  have hall := forall₂_filter_filterMap (p := fun _ => true) (fun a ha _ => h a ha)
    (fun _ _ hc => by cases hc)
  rwa [List.filter_true] at hall

end Forall₂

/-- The failures of a report are worded one by one. -/
theorem exists_worded (expected : List Expectation) (actual : List Diagnostic) (t : Text)
    (strict : Bool) (file : String) :
    ∃ missing wrong unexpected, Worded expected actual t strict file missing wrong unexpected ∧
      failuresOf (matchDiagnostics expected actual t) expected actual t strict file
        = missing ++ wrong ++ unexpected := by
  refine ⟨_, _, _, ⟨?_, ?_, ?_⟩, rfl⟩
  · refine forall₂_filterMap ?_
    intro i hi
    rw [missing_eq] at hi
    have hlt : i < expected.length := List.mem_range.mp (List.mem_filter.mp hi).1
    exact ⟨_, by rw [List.getElem?_eq_getElem hlt]; rfl, _, List.getElem?_eq_getElem hlt, rfl⟩
  · refine forall₂_filterMap ?_
    rintro ⟨i, j⟩ hp
    obtain ⟨hi, hj⟩ := lt_of_owner? (mem_wrongMessage_iff.mp hp).1
    refine ⟨_, ?_, _, _, List.getElem?_eq_getElem hi, List.getElem?_eq_getElem hj, rfl⟩
    simp only [List.getElem?_eq_getElem hi, List.getElem?_eq_getElem hj]
  · cases strict with
    | false => exact List.Forall₂.nil
    | true =>
      refine forall₂_filter_filterMap ?_ ?_
      · intro j _ hid
        obtain ⟨d, hd, hid⟩ := (Option.any_eq_true _ _).mp hid
        exact ⟨_, by rw [hd, Option.bind_some, if_pos hid], d, hd, rfl⟩
      · -- a diagnostic of another id gives no text
        intro j _ hid
        cases hd : actual[j]? with
        | none => rfl
        | some d =>
          rw [idExpected, hd, Option.any_some] at hid
          rw [Option.bind_some, if_neg (by rw [hid]; exact Bool.false_ne_true)]

theorem Worded.length_eq {strict : Bool} {file : String} {missing wrong unexpected : List String}
    (h : Worded expected actual t strict file missing wrong unexpected) :
    (missing ++ wrong ++ unexpected).length
      = (matchDiagnostics expected actual t).missing.length
        + (matchDiagnostics expected actual t).wrongMessage.length
        + (counted expected actual t strict).length := by
  rw [List.length_append, List.length_append, h.missing.length_eq, h.wrong.length_eq,
    h.unexpected.length_eq]

theorem presenceFailures_eq_nil_iff_failuresOf {strict : Bool} {file : String} :
    presenceFailures expected actual t strict file = [] ↔
      failuresOf (matchDiagnostics expected actual t) expected actual t strict file = [] := by
  unfold presenceFailures
  simp only []
  split
  · next h => exact ⟨fun _ => List.isEmpty_iff.mp h, fun _ => rfl⟩
  · next h => exact ⟨fun hn => absurd hn (by simp), fun hn => absurd (by rw [hn]; rfl) h⟩

/-- No failure is found exactly if all are matched and no unexpected diagnostic counts. -/
theorem presenceFailures_eq_nil_iff {strict : Bool} {file : String} :
    presenceFailures expected actual t strict file = [] ↔
      (matchDiagnostics expected actual t).matched.length = expected.length ∧
        (counted expected actual t strict).length = 0 := by
  obtain ⟨missing, wrong, unexpected, hworded, he⟩ :=
    exists_worded expected actual t strict file
  have hexpected := length_expected expected actual t
  rw [presenceFailures_eq_nil_iff_failuresOf, he, ← List.length_eq_zero_iff, hworded.length_eq]
  omega

/-! ## Counting ids -/

/-- The elements that pass a test, counted by their indices. -/
theorem length_filter_eq_card {α : Type} (l : List α) (test : α → Bool) :
    (l.filter test).length
      = ((Finset.range l.length).filter fun j => (l[j]?).any test = true).card := by
  have hmap : (List.range l.length).map (fun j => l[j]?) = l.map some := by
    refine List.ext_getElem (by simp) ?_
    intro j hj _
    simp at hj
    simp [hj]
  have hcount : (l.map some).countP (Option.any test) = l.countP test := by
    rw [List.countP_map]
    rfl
  rw [← List.countP_eq_length_filter, ← hcount, ← hmap, List.countP_map,
    List.countP_eq_length_filter, ← List.toFinset_card_of_nodup (List.nodup_range.filter _)]
  refine congrArg Finset.card ?_
  ext j
  simp

/-- What an expectation has is of an id that is expected. -/
theorem idExpected_of_owner? {i j : Nat} (h : (bothRounds expected actual t).owner? j = some i) :
    idExpected expected actual j = true := by
  have hedge := fallbackEdges_subset_locatedEdges (bothRounds_along.1.edge List.not_mem_nil h)
  obtain ⟨e, d, he, hd, hlocated⟩ := mem_edgesOf.mp hedge
  rw [idExpected, hd, Option.any_some, List.any_eq_true]
  exact ⟨e, List.mem_of_getElem? he, decide_eq_true (locates_iff.mp hlocated).1.symm⟩

/-- **Each diagnostic of an id that is expected is in one pair or unexpected.** -/
theorem length_filter_idExpected (expected : List Expectation) (actual : List Diagnostic)
    (t : Text) :
    (matchDiagnostics expected actual t).matched.length
      + (matchDiagnostics expected actual t).wrongMessage.length
      + ((matchDiagnostics expected actual t).unexpected.filter (idExpected expected actual)).length
        = (actual.filter fun d => expected.any fun e => e.id = d.id).length := by
  have hnodup : ((matchDiagnostics expected actual t).unexpected.filter
      (idExpected expected actual)).Nodup := (List.nodup_range.filter _).filter _
  have hfree : ((matchDiagnostics expected actual t).unexpected.filter
      (idExpected expected actual)).toFinset
        = ((Finset.range actual.length).filter fun j => idExpected expected actual j = true).filter
          fun j => ¬ ((bothRounds expected actual t).owner? j).isSome = true := by
    ext j
    simp [mem_unexpected_iff, and_right_comm]
  have howned : ((Finset.range actual.length).filter
      fun j => idExpected expected actual j = true).filter
        (fun j => ((bothRounds expected actual t).owner? j).isSome = true)
        = (Finset.range actual.length).filter
          fun j => ((bothRounds expected actual t).owner? j).isSome = true := by
    ext j
    simp only [Finset.mem_filter]
    constructor
    · exact fun h => ⟨h.1.1, h.2⟩
    · intro h
      obtain ⟨i, ho⟩ := Option.isSome_iff_exists.mp h.2
      exact ⟨⟨h.1, idExpected_of_owner? ho⟩, h.2⟩
  rw [length_filter_eq_card actual, ← List.toFinset_card_of_nodup hnodup, hfree,
    length_matched_add_length_wrongMessage,
    ← bothRounds_along.1.card_owned lt_of_mem_fallbackEdges, ← howned,
    Finset.card_filter_add_card_filter_not]
  rfl

/-! ## The verdict -/

/-- **A verdict is good exactly if the demand can be met.** Failing verdicts word one failure for
each missing expectation, each wrong message and each unexpected diagnostic that counts, and end
with the listing. -/
theorem verdict_iff_fulfils (expected : List Expectation) (actual : List Diagnostic) (t : Text)
    (file : String) :
    ((matchDiagnostics expected actual t).ok false = true ↔
        ∃ assign, Fulfils expected actual t assign) ∧
      ((matchDiagnostics expected actual t).ok true = true ↔
        ∃ assign, Fulfils expected actual t assign ∧ Function.Surjective assign) ∧
      (presenceFailures expected actual t false file = [] ↔
        ∃ assign, Fulfils expected actual t assign) ∧
      (presenceFailures expected actual t true file = [] ↔
        (∃ assign, Fulfils expected actual t assign) ∧
          (actual.filter fun d => expected.any fun e => e.id = d.id).length = expected.length) ∧
      ∀ strict, presenceFailures expected actual t strict file ≠ [] →
        ∃ missing wrong unexpected, Worded expected actual t strict file missing wrong unexpected ∧
          presenceFailures expected actual t strict file
            = missing ++ wrong ++ unexpected ++ [listing actual t file] := by
  refine ⟨?_, ?_, ?_, ?_, ?_⟩
  · rw [ok_false_iff, exists_fulfils_iff_length_matched]
  · rw [ok_true_iff, exists_fulfils_surjective_iff, exists_fulfils_iff_length_matched]
  · rw [presenceFailures_eq_nil_iff, exists_fulfils_iff_length_matched]
    simp [counted]
  · rw [presenceFailures_eq_nil_iff, exists_fulfils_iff_length_matched]
    have hexpected := length_expected expected actual t
    have hids := length_filter_idExpected expected actual t
    simp only [counted, if_true]
    omega
  · intro strict hne
    obtain ⟨missing, wrong, unexpected, hworded, he⟩ := exists_worded expected actual t strict file
    refine ⟨missing, wrong, unexpected, hworded, ?_⟩
    rw [Ne, presenceFailures_eq_nil_iff_failuresOf] at hne
    unfold presenceFailures
    simp only []
    rw [if_neg (by simpa using hne), he]

end Assay.Matching
