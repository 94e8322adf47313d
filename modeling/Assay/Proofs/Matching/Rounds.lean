import Assay.Matching.Report
import Assay.Proofs.Matching.Greedy
import Mathlib.Data.Finset.Image

/-!
# The two rounds

What is known of the owners after each round, and what the report says of them. The expectations
that are matched are the ones that own something after the first round (`mem_matched_iff`,
`map_fst_matched`): the second round takes no message away, because whoever is matched keeps to its
edges, and gives none, because an expectation that could be added to the first round would have
been. Those that join in the second round have a wrong message, and the others are missing.
-/

namespace Assay.Matching

variable {expected : List Expectation} {actual : List Diagnostic} {t : Text}

/-! ## What an expectation asks for -/

theorem locates_iff {e : Expectation} {d : Diagnostic} :
    e.locates t d = true ↔ d.id = e.id ∧ e.locator.matchesSpan d.span t = true := by
  rw [Expectation.locates, Bool.and_eq_true, decide_eq_true_eq]

theorem agrees_iff {e : Expectation} {d : Diagnostic} :
    e.agrees d = true ↔ ∀ message, e.message = some message → d.message = message := by
  unfold Expectation.agrees
  cases e.message with
  | none => simp
  | some message => simp [eq_comm]

theorem fits_iff {e : Expectation} {d : Diagnostic} :
    e.fits t d = true ↔ d.id = e.id ∧ e.locator.matchesSpan d.span t = true ∧
      ∀ message, e.message = some message → d.message = message := by
  rw [Expectation.fits, Bool.and_eq_true, locates_iff, agrees_iff, and_assoc]

/-! ## Edges -/

theorem mem_edgesOf {test : Expectation → Diagnostic → Bool} {i j : Nat} :
    j ∈ edgesOf test expected actual i ↔
      ∃ e d, expected[i]? = some e ∧ actual[j]? = some d ∧ test e d = true := by
  unfold edgesOf
  cases he : expected[i]? with
  | none => simp
  | some e =>
    simp only [List.mem_filter, List.mem_range, Option.some.injEq]
    constructor
    · rintro ⟨hj, htest⟩
      rw [List.getElem?_eq_getElem hj] at htest
      exact ⟨e, actual[j], rfl, List.getElem?_eq_getElem hj, htest⟩
    · rintro ⟨_, d, rfl, hd, htest⟩
      refine ⟨(List.getElem?_eq_some_iff.mp hd).1, ?_⟩
      rw [hd]
      exact htest

theorem lt_of_mem_edgesOf {test : Expectation → Diagnostic → Bool} {i j : Nat}
    (h : j ∈ edgesOf test expected actual i) : i < expected.length ∧ j < actual.length := by
  obtain ⟨e, d, he, hd, _⟩ := mem_edgesOf.mp h
  exact ⟨(List.getElem?_eq_some_iff.mp he).1, (List.getElem?_eq_some_iff.mp hd).1⟩

/-- The diagnostics that an expectation asks for. -/
def exactEdges (expected : List Expectation) (actual : List Diagnostic) (t : Text) :
    Nat → List Nat :=
  edgesOf (fun e d => e.fits t d) expected actual

/-- The diagnostics that are where an expectation asks for them. -/
def locatedEdges (expected : List Expectation) (actual : List Diagnostic) (t : Text) :
    Nat → List Nat :=
  edgesOf (fun e d => e.locates t d) expected actual

/-- What an expectation asks for is located and has the message. -/
theorem mem_exactEdges_iff {i j : Nat} :
    j ∈ exactEdges expected actual t i ↔
      j ∈ locatedEdges expected actual t i ∧ agreesAt expected actual i j = true := by
  simp only [exactEdges, locatedEdges, mem_edgesOf, Expectation.fits, Bool.and_eq_true, agreesAt]
  constructor
  · rintro ⟨e, d, he, hd, hl, ha⟩
    refine ⟨⟨e, d, he, hd, hl⟩, ?_⟩
    rw [he, hd]
    exact ha
  · rintro ⟨⟨e, d, he, hd, hl⟩, ha⟩
    rw [he, hd] at ha
    exact ⟨e, d, he, hd, hl, ha⟩

theorem lt_of_mem_exactEdges {i j : Nat} (h : j ∈ exactEdges expected actual t i) :
    j < actual.length :=
  (lt_of_mem_edgesOf h).2

/-! ## The item of an owner -/

section Item

variable {edges : Nat → List Nat} {owners : Owners} {items : Nat}
  (hlt : ∀ {seeker item}, item ∈ edges seeker → item < items)
include hlt

theorem Owners.Along.itemOf?_eq_some_iff (h : owners.Along edges []) {i j : Nat} :
    owners.itemOf? items i = some j ↔ owners.owner? j = some i := by
  unfold Owners.itemOf?
  constructor
  · intro hf
    simpa using List.find?_some hf
  · intro ho
    have hj : j ∈ List.range items := List.mem_range.mpr (hlt (h.edge List.not_mem_nil ho))
    cases hf : (List.range items).find? fun k => owners.owner? k == some i with
    | none =>
      have hn := List.find?_eq_none.mp hf j hj
      exact absurd (by simpa using ho) hn
    | some k =>
      have hk : owners.owner? k = some i := by simpa using List.find?_some hf
      rw [h.single List.not_mem_nil List.not_mem_nil hk ho]

theorem Owners.Along.isSome_itemOf?_iff (h : owners.Along edges []) {i : Nat} :
    (owners.itemOf? items i).isSome = true ↔ i ∈ owners.seekers := by
  rw [Option.isSome_iff_exists, Owners.mem_seekers]
  exact exists_congr fun j => h.itemOf?_eq_some_iff hlt

/-- There are as many items with an owner as owners. -/
theorem Owners.Along.card_owned (h : owners.Along edges []) :
    ((Finset.range items).filter fun j => (owners.owner? j).isSome = true).card
      = owners.seekers.card := by
  have himage : owners.seekers =
      ((Finset.range items).filter fun j => (owners.owner? j).isSome = true).image
        fun j => (owners.owner? j).getD 0 := by
    ext i
    simp only [Owners.mem_seekers, Finset.mem_image, Finset.mem_filter, Finset.mem_range]
    constructor
    · rintro ⟨j, ho⟩
      exact ⟨j, ⟨hlt (h.edge List.not_mem_nil ho), by rw [ho]; rfl⟩, by rw [ho]; rfl⟩
    · rintro ⟨j, ⟨_, ho⟩, rfl⟩
      obtain ⟨i, hi⟩ := Option.isSome_iff_exists.mp ho
      exact ⟨j, by rw [hi]; rfl⟩
  rw [himage, Finset.card_image_of_injOn]
  intro j hj k hk he
  obtain ⟨i, hi⟩ := Option.isSome_iff_exists.mp (Finset.mem_filter.mp hj).2
  obtain ⟨l, hl⟩ := Option.isSome_iff_exists.mp (Finset.mem_filter.mp hk).2
  simp only [hi, hl, Option.getD_some] at he
  exact h.single List.not_mem_nil List.not_mem_nil hi (he ▸ hl)

end Item

/-! ## The first round -/

theorem firstRound_along :
    (firstRound expected actual t).Along (exactEdges expected actual t) [] ∧
      (firstRound expected actual t).seekers
        = extendAll (exactEdges expected actual t) ∅ (List.range expected.length) :=
  (Owners.along_empty _).assignAll lt_of_mem_exactEdges List.nodup_range (by simp)

/-- An expectation that could be met together with all that are met is one of them. -/
theorem mem_seekers_firstRound {i : Nat} (hi : i < expected.length)
    (h : Placeable (exactEdges expected actual t)
      (insert i (firstRound expected actual t).seekers)) :
    i ∈ (firstRound expected actual t).seekers := by
  rw [firstRound_along.2] at h ⊢
  by_contra hn
  exact not_placeable_of_notMem_extendAll (List.mem_range.mpr hi) hn h

/-! ## The second round -/

/-- Whether an expectation is met in the first round. -/
def metFirst (expected : List Expectation) (actual : List Diagnostic) (t : Text) (i : Nat) : Bool :=
  ((firstRound expected actual t).itemOf? actual.length i).isSome

theorem metFirst_iff {i : Nat} :
    metFirst expected actual t i = true ↔ i ∈ (firstRound expected actual t).seekers :=
  firstRound_along.1.isSome_itemOf?_iff lt_of_mem_exactEdges

/-- The edges of the second round: who is met keeps to their message. -/
def fallbackEdges (expected : List Expectation) (actual : List Diagnostic) (t : Text) :
    Nat → List Nat :=
  secondEdges expected actual t (metFirst expected actual t)

/-- The expectations that try in the second round. -/
def unmet (expected : List Expectation) (actual : List Diagnostic) (t : Text) : List Nat :=
  (List.range expected.length).filter fun i => !metFirst expected actual t i

theorem mem_unmet {i : Nat} :
    i ∈ unmet expected actual t ↔
      i < expected.length ∧ i ∉ (firstRound expected actual t).seekers := by
  rw [unmet, List.mem_filter, List.mem_range, ← metFirst_iff]
  simp

theorem fallbackEdges_of_met {i : Nat} (h : i ∈ (firstRound expected actual t).seekers) :
    fallbackEdges expected actual t i = exactEdges expected actual t i := by
  rw [fallbackEdges, secondEdges, if_pos (metFirst_iff.mpr h)]
  rfl

theorem fallbackEdges_of_unmet {i : Nat} (h : i ∉ (firstRound expected actual t).seekers) :
    fallbackEdges expected actual t i = locatedEdges expected actual t i := by
  rw [fallbackEdges, secondEdges, if_neg (fun hm => h (metFirst_iff.mp hm))]
  rfl

theorem exactEdges_subset_fallbackEdges {i : Nat} :
    exactEdges expected actual t i ⊆ fallbackEdges expected actual t i := by
  by_cases h : i ∈ (firstRound expected actual t).seekers
  · rw [fallbackEdges_of_met h]
    exact List.Subset.refl _
  · rw [fallbackEdges_of_unmet h]
    exact fun j hj => (mem_exactEdges_iff.mp hj).1

theorem fallbackEdges_subset_locatedEdges {i : Nat} :
    fallbackEdges expected actual t i ⊆ locatedEdges expected actual t i := by
  by_cases h : i ∈ (firstRound expected actual t).seekers
  · rw [fallbackEdges_of_met h]
    exact fun j hj => (mem_exactEdges_iff.mp hj).1
  · rw [fallbackEdges_of_unmet h]
    exact List.Subset.refl _

theorem lt_of_mem_fallbackEdges {i j : Nat} (h : j ∈ fallbackEdges expected actual t i) :
    j < actual.length :=
  (lt_of_mem_edgesOf (fallbackEdges_subset_locatedEdges h)).2

theorem firstRound_along_fallbackEdges :
    (firstRound expected actual t).Along (fallbackEdges expected actual t) [] where
  edge hn ho := exactEdges_subset_fallbackEdges (firstRound_along.1.edge hn ho)
  single := firstRound_along.1.single

theorem nodup_unmet : (unmet expected actual t).Nodup := List.nodup_range.filter _

theorem bothRounds_along :
    (bothRounds expected actual t).Along (fallbackEdges expected actual t) [] ∧
      (bothRounds expected actual t).seekers
        = extendAll (fallbackEdges expected actual t) (firstRound expected actual t).seekers
            (unmet expected actual t) :=
  firstRound_along_fallbackEdges.assignAll lt_of_mem_fallbackEdges nodup_unmet
    (fun _ hi => (mem_unmet.mp hi).2)

theorem seekers_firstRound_subset :
    (firstRound expected actual t).seekers ⊆ (bothRounds expected actual t).seekers := by
  rw [bothRounds_along.2]
  exact subset_extendAll

theorem lt_of_mem_seekers {i : Nat} (h : i ∈ (bothRounds expected actual t).seekers) :
    i < expected.length := by
  obtain ⟨j, ho⟩ := Owners.mem_seekers.mp h
  have hedge := bothRounds_along.1.edge List.not_mem_nil ho
  exact (lt_of_mem_edgesOf (fallbackEdges_subset_locatedEdges hedge)).1

/-- **After both rounds, an expectation has a diagnostic that agrees on the message exactly if it
was met in the first round.** -/
theorem agreesAt_iff {i j : Nat} (h : (bothRounds expected actual t).owner? j = some i) :
    agreesAt expected actual i j = true ↔ i ∈ (firstRound expected actual t).seekers := by
  have hedge := bothRounds_along.1.edge List.not_mem_nil h
  constructor
  · intro ha
    refine mem_seekers_firstRound (lt_of_mem_seekers (Owners.mem_seekers.mpr ⟨j, h⟩)) ?_
    refine (bothRounds expected actual t).placeable_of_owned ?_
    intro k hk
    rcases Finset.mem_insert.mp hk with rfl | hk
    · exact ⟨j, mem_exactEdges_iff.mpr ⟨fallbackEdges_subset_locatedEdges hedge, ha⟩, h⟩
    · obtain ⟨item, ho⟩ := Owners.mem_seekers.mp (seekers_firstRound_subset hk)
      have hkeeps := bothRounds_along.1.edge List.not_mem_nil ho
      rw [fallbackEdges_of_met hk] at hkeeps
      exact ⟨item, hkeeps, ho⟩
  · intro hi
    rw [fallbackEdges_of_met hi] at hedge
    exact (mem_exactEdges_iff.mp hedge).2

end Assay.Matching
