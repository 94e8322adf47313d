import Assay.Edit
import Mathlib.Data.List.Basic

/-!
# The order of edits

Edits are sorted by their places before they are applied, and only neighbours are checked. This
module says what that amounts to for the list as it was given: no two neighbours overlap if and only
if no two edits of the list collide, the first of the two being the one with the smaller place or,
at one place, the earlier one of the list.
-/

namespace Assay.Edit

/-! ## Sorting -/

theorem placedBefore_iff {a b : Edit} : placedBefore a b = true ↔
    a.span.start < b.span.start ∨ a.span.start = b.span.start ∧ a.span.stop ≤ b.span.stop := by
  simp [placedBefore]

theorem placedBefore_trans (a b c : Edit) (hab : placedBefore a b = true)
    (hbc : placedBefore b c = true) : placedBefore a c = true := by
  rw [placedBefore_iff] at *
  omega

theorem placedBefore_total (a b : Edit) : (placedBefore a b || placedBefore b a) = true := by
  rw [Bool.or_eq_true, placedBefore_iff, placedBefore_iff]
  omega

/-- The edits sorted by place. -/
def inOrder (edits : List Edit) : List Edit := edits.mergeSort placedBefore

theorem inOrder_perm (edits : List Edit) : (inOrder edits).Perm edits :=
  List.mergeSort_perm edits placedBefore

theorem pairwise_inOrder (edits : List Edit) :
    (inOrder edits).Pairwise fun a b => placedBefore a b = true :=
  List.pairwise_mergeSort placedBefore_trans placedBefore_total edits

/-- Edits at one place keep their order. -/
theorem filter_inOrder {p : Edit → Bool} (hp : ∀ a b, p a = true → p b = true → a.span = b.span)
    (edits : List Edit) : (inOrder edits).filter p = edits.filter p := by
  have hsorted : (edits.filter p).Pairwise fun a b => placedBefore a b = true := by
    refine List.pairwise_filter.mpr (List.pairwise_of_forall fun a b ha hb => ?_)
    rw [placedBefore_iff, hp a b ha hb]
    exact Or.inr ⟨rfl, Nat.le_refl _⟩
  have hsublist := (List.sublist_mergeSort placedBefore_trans placedBefore_total hsorted
    List.filter_sublist).filter p
  rw [List.filter_filter] at hsublist
  simp only [Bool.and_self] at hsublist
  exact (hsublist.eq_of_length ((inOrder_perm edits).filter p).length_eq.symm).symm

/-- The spans of sorted edits are those of their permutations. -/
theorem map_span_inOrder {edits edits' : List Edit} (h : edits'.Perm edits) :
    (inOrder edits').map Edit.span = (inOrder edits).map Edit.span := by
  have hsorted (l : List Edit) : ((inOrder l).map Edit.span).Pairwise
      fun a b => a.start < b.start ∨ a.start = b.start ∧ a.stop ≤ b.stop :=
    List.pairwise_map.mpr ((pairwise_inOrder l).imp placedBefore_iff.mp)
  refine List.Perm.eq_of_pairwise ?_ (hsorted edits') (hsorted edits) ?_
  · rintro ⟨start, length⟩ ⟨start', length'⟩ _ _ hle hge
    simp only [Span.stop_mk, Span.mk.injEq] at *
    omega
  · exact (((inOrder_perm edits').trans h).trans (inOrder_perm edits).symm).map Edit.span

/-! ## Overlaps -/

/-- Neighbours that do not overlap are all apart, as each edit ends behind its own start. -/
theorem overlap?_eq_none_iff (edits : List Edit) : overlap? edits = none ↔
    edits.Pairwise fun a b => a.span.stop ≤ b.span.start := by
  induction edits with
  | nil => exact iff_of_true rfl List.Pairwise.nil
  | cons a rest ih =>
    cases rest with
    | nil => exact iff_of_true rfl (List.pairwise_singleton _ _)
    | cons b rest =>
      rw [overlap?]
      by_cases hab : b.span.start < a.span.stop
      · rw [if_pos hab]
        refine iff_of_false (by simp) fun h => ?_
        have := List.rel_of_pairwise_cons h List.mem_cons_self
        omega
      · rw [if_neg hab, ih]
        refine ⟨fun h => List.pairwise_cons.mpr ⟨fun c hc => ?_, h⟩, List.Pairwise.of_cons⟩
        rcases List.mem_cons.mp hc with rfl | hc
        · omega
        · have hbc := List.rel_of_pairwise_cons h hc
          have hb := b.span.start_le_stop
          omega

theorem overlap?_congr {edits edits' : List Edit}
    (h : edits'.map Edit.span = edits.map Edit.span) : overlap? edits' = overlap? edits := by
  induction edits generalizing edits' with
  | nil =>
    rw [List.map_nil, List.map_eq_nil_iff] at h
    rw [h]
  | cons a rest ih =>
    obtain ⟨a', rest', rfl, ha, hrest⟩ := List.map_eq_cons_iff.mp h
    have hbehind := ih hrest
    cases rest with
    | nil =>
      rw [List.map_nil, List.map_eq_nil_iff] at hrest
      rw [hrest]
      rfl
    | cons b rest =>
      obtain ⟨b', rest', rfl, hb, _⟩ := List.map_eq_cons_iff.mp hrest
      rw [overlap?, overlap?, ha, hb, hbehind]

/-! ## Collisions in the list as it is given -/

/-- Whether the first of two edits of a list is applied to the place in front: the one with the
smaller start, or else the smaller end, or else the smaller index. -/
def Precedes (edits : List Edit) (i j : Fin edits.length) : Prop :=
  edits[i].span.start < edits[j].span.start ∨ edits[i].span.start = edits[j].span.start ∧
    (edits[i].span.stop < edits[j].span.stop ∨ edits[i].span.stop = edits[j].span.stop ∧ i < j)

/-- Whether two edits of a list are in each other's way: the later one starts before the end of the
earlier one. -/
def Collide (edits : List Edit) : Prop :=
  ∃ i j, Precedes edits i j ∧ edits[j].span.start < edits[i].span.stop

/-- Whether two edits are apart, whichever comes first. -/
def Clear (a b : Edit) : Prop :=
  (placedBefore a b = true → a.span.stop ≤ b.span.start) ∧
    (placedBefore b a = true → b.span.stop ≤ a.span.start)

theorem Clear.symm {a b : Edit} (h : Clear a b) : Clear b a := ⟨h.2, h.1⟩

/-- Sorted edits are apart if and only if they are clear of each other. -/
theorem pairwise_inOrder_iff (edits : List Edit) :
    (inOrder edits).Pairwise (fun a b => a.span.stop ≤ b.span.start) ↔ edits.Pairwise Clear := by
  rw [← (inOrder_perm edits).pairwise_iff Clear.symm]
  have hsorted := pairwise_inOrder edits
  constructor
  · intro h
    refine (hsorted.and h).imp fun {a b} ⟨hab, hstop⟩ => ⟨fun _ => hstop, fun hba => ?_⟩
    rw [placedBefore_iff] at hab hba
    omega
  · intro h
    exact (hsorted.and h).imp fun ⟨hab, hclear⟩ => hclear.1 hab

theorem not_collide_iff (edits : List Edit) : ¬ Collide edits ↔ edits.Pairwise Clear := by
  simp only [Collide, not_exists, not_and, Nat.not_lt, List.pairwise_iff_getElem]
  constructor
  · intro h i j hi hj hij
    have hforth := h ⟨i, hi⟩ ⟨j, hj⟩
    have hback := h ⟨j, hj⟩ ⟨i, hi⟩
    simp only [Precedes, Fin.getElem_fin, Fin.mk_lt_mk] at hforth hback
    rw [Clear, placedBefore_iff, placedBefore_iff]
    omega
  · intro h i j hij
    simp only [Clear, placedBefore_iff] at h
    simp only [Precedes, Fin.getElem_fin] at hij ⊢
    rw [Fin.lt_def] at hij
    rcases Nat.lt_trichotomy i j with hlt | heq | hgt
    · have hclear := h i j i.isLt j.isLt hlt
      omega
    · obtain rfl := Fin.ext heq
      omega
    · have hclear := h j i j.isLt i.isLt hgt
      omega

/-- **Checking neighbours in order finds a collision if there is one.** -/
theorem overlap?_inOrder_eq_none_iff (edits : List Edit) :
    overlap? (inOrder edits) = none ↔ ¬ Collide edits := by
  rw [overlap?_eq_none_iff, pairwise_inOrder_iff, not_collide_iff]

end Assay.Edit
