import Assay.Proofs.Matching.Outcome
import Mathlib.Data.List.Perm.Subperm

/-!
# The order of the diagnostics

Reporting the same diagnostics in another order changes the paths of the search and who gets which
diagnostic. It does not change which sets of expectations can be placed, since the diagnostics only
get other numbers. Who is matched, who has a wrong message and who is missing depends on nothing
else, so all that stays as it is.
-/

namespace Assay.Matching

variable {expected : List Expectation} {actual actual' : List Diagnostic} {t : Text}
  {edges edges' : Nat → List Nat} {s : Finset Nat}

/-! ## Other numbers -/

/-- The number of each diagnostic in another order of them. -/
theorem exists_renumbering (h : actual.Perm actual') :
    ∃ number : Nat → Nat, Set.InjOn number {j | j < actual.length} ∧
      ∀ {j d}, actual[j]? = some d → actual'[number j]? = some d := by
  let number (j : Nat) : Nat := if hj : j < actual.length then h.idxBij ⟨j, hj⟩ else 0
  refine ⟨number, ?_, ?_⟩
  · intro j hj k hk he
    simp only [number, dif_pos (show j < actual.length from hj),
      dif_pos (show k < actual.length from hk)] at he
    exact congrArg Fin.val (h.subperm.idxInj_injective (Fin.ext he))
  · intro j d hd
    obtain ⟨hj, rfl⟩ := List.getElem?_eq_some_iff.mp hd
    simp only [number, dif_pos hj]
    rw [List.getElem?_eq_getElem (h.idxBij ⟨j, hj⟩).isLt, h.getElem_idxBij_eq_getElem ⟨j, hj⟩]

/-- Every expectation makes the same test along some edges as along others, each on its own order of
the diagnostics. -/
def SameTests (expected : List Expectation) (actual actual' : List Diagnostic)
    (edges edges' : Nat → List Nat) : Prop :=
  ∀ i, ∃ test, edges i = edgesOf test expected actual i ∧ edges' i = edgesOf test expected actual' i

theorem SameTests.symm (h : SameTests expected actual actual' edges edges') :
    SameTests expected actual' actual edges' edges := by
  intro i
  obtain ⟨test, he, he'⟩ := h i
  exact ⟨test, he', he⟩

/-- A set that can be placed can be placed in another order of the diagnostics. -/
theorem Placeable.of_perm (hs : Placeable edges s) (h : actual.Perm actual')
    (htests : SameTests expected actual actual' edges edges') : Placeable edges' s := by
  obtain ⟨number, hinj, hget⟩ := exists_renumbering h
  refine hs.renumber (hinj.mono ?_) ?_
  · rintro j ⟨i, _, hj⟩
    obtain ⟨test, he, _⟩ := htests i
    rw [he] at hj
    exact (lt_of_mem_edgesOf hj).2
  · intro i _ j hj
    obtain ⟨test, he, he'⟩ := htests i
    rw [he] at hj
    rw [he']
    obtain ⟨e, d, hexp, hact, hpass⟩ := mem_edgesOf.mp hj
    exact mem_edgesOf.mpr ⟨e, d, hexp, hget hact, hpass⟩

theorem extendAll_perm {seekers : List Nat} (h : actual.Perm actual')
    (htests : SameTests expected actual actual' edges edges') :
    extendAll edges s seekers = extendAll edges' s seekers :=
  extendAll_congr fun _ => ⟨fun hs => hs.of_perm h htests, fun hs => hs.of_perm h.symm htests.symm⟩

/-! ## The rounds -/

/-- The same expectations are met in the first round. -/
theorem seekers_firstRound_perm (h : actual.Perm actual') :
    (firstRound expected actual t).seekers = (firstRound expected actual' t).seekers := by
  have htests : SameTests expected actual actual' (exactEdges expected actual t)
      (exactEdges expected actual' t) := fun _ => ⟨_, rfl, rfl⟩
  rw [firstRound_along.2, firstRound_along.2, extendAll_perm h htests]

theorem metFirst_perm (h : actual.Perm actual') :
    metFirst expected actual t = metFirst expected actual' t := by
  funext i
  rw [Bool.eq_iff_iff, metFirst_iff, metFirst_iff, seekers_firstRound_perm h]

/-- The same expectations get a diagnostic in both rounds. -/
theorem seekers_bothRounds_perm (h : actual.Perm actual') :
    (bothRounds expected actual t).seekers = (bothRounds expected actual' t).seekers := by
  have htests : SameTests expected actual actual' (fallbackEdges expected actual t)
      (fallbackEdges expected actual' t) := by
    intro i
    simp only [fallbackEdges, secondEdges, metFirst_perm h]
    split
    · exact ⟨_, rfl, rfl⟩
    · exact ⟨_, rfl, rfl⟩
  rw [bothRounds_along.2, bothRounds_along.2, seekers_firstRound_perm h, unmet, unmet,
    metFirst_perm h, extendAll_perm h htests]

/-! ## The report -/

/-- Two reports say the same of every expectation and leave as many diagnostics over. -/
structure Report.SameOutcome (r r' : Report) : Prop where
  matched : r.matched.map Prod.fst = r'.matched.map Prod.fst
  wrongMessage : r.wrongMessage.map Prod.fst = r'.wrongMessage.map Prod.fst
  missing : r.missing = r'.missing
  unexpected : r.unexpected.length = r'.unexpected.length

/-- **The order of the diagnostics does not matter.** The same expectations are matched, have a
wrong message and are missing, and as many diagnostics are unexpected. -/
theorem sameOutcome_of_perm (expected : List Expectation) (t : Text) (h : actual.Perm actual') :
    (matchDiagnostics expected actual t).SameOutcome (matchDiagnostics expected actual' t) where
  matched := by rw [map_fst_matched, map_fst_matched, seekers_firstRound_perm h]
  wrongMessage := by
    rw [map_fst_wrongMessage, map_fst_wrongMessage, seekers_firstRound_perm h,
      seekers_bothRounds_perm h]
  missing := by rw [missing_eq, missing_eq, seekers_bothRounds_perm h]
  unexpected := by
    have hlen : (matchDiagnostics expected actual t).unexpected.length + _ = actual.length :=
      length_unexpected
    have hlen' : (matchDiagnostics expected actual' t).unexpected.length + _ = actual'.length :=
      length_unexpected
    rw [seekers_bothRounds_perm h, h.length_eq] at hlen
    omega

/-- The expectation of the line takes whichever diagnostic comes first, and has to leave the one on
the span to the expectation of the span. -/
theorem sameOutcome_swap :
    List.Perm (α := Diagnostic)
        [⟨"A", ⟨0, 1⟩, "m", .warning⟩, ⟨"A", ⟨0, 2⟩, "x", .warning⟩, ⟨"B", ⟨0, 1⟩, "m", .warning⟩]
        [⟨"A", ⟨0, 2⟩, "x", .warning⟩, ⟨"A", ⟨0, 1⟩, "m", .warning⟩, ⟨"B", ⟨0, 1⟩, "m", .warning⟩] ∧
      (matchDiagnostics
        [⟨"A", .line 1, none⟩, ⟨"A", .span ⟨0, 1⟩, some "m"⟩, ⟨"A", .line 1, some "m"⟩]
        [⟨"A", ⟨0, 1⟩, "m", .warning⟩, ⟨"A", ⟨0, 2⟩, "x", .warning⟩, ⟨"B", ⟨0, 1⟩, "m", .warning⟩]
        []).SameOutcome
      (matchDiagnostics
        [⟨"A", .line 1, none⟩, ⟨"A", .span ⟨0, 1⟩, some "m"⟩, ⟨"A", .line 1, some "m"⟩]
        [⟨"A", ⟨0, 2⟩, "x", .warning⟩, ⟨"A", ⟨0, 1⟩, "m", .warning⟩, ⟨"B", ⟨0, 1⟩, "m", .warning⟩]
        []) :=
  ⟨List.Perm.swap _ _ _, sameOutcome_of_perm _ _ (List.Perm.swap _ _ _)⟩

end Assay.Matching
