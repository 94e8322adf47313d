import Assay.Matching.Verdict
import Assay.Proofs.Indices
import Assay.Proofs.Matching.Account
import Mathlib.Algebra.Order.Sub.Basic
import Mathlib.Data.Multiset.OrderedMonoid
import Mathlib.Data.Multiset.UnionInter

/-!
# Expectations on spans

Of expectations of one id on exact spans, matched against the diagnostics of that id, it does not
matter which one gets which diagnostic: expectations on one span are as good as each other, and so
are diagnostics on one span. Only numbers count. A span is missing as often as it is expected more
often than reported, and unexpected as often as it is the other way round, so the report is known
from the two multisets of spans (`coe_missingSpans`, `coe_unexpectedSpans`).
-/

namespace Assay.Matching

/-- What two multisets have besides a common part is their differences, if it has nothing in
common. -/
theorem add_sub_add_of_disjoint {common a b : Multiset Span} (h : Disjoint a b) :
    (common + a) - (common + b) = a := by
  rw [add_tsub_add_eq_tsub_left]
  ext s
  rw [Multiset.count_sub]
  by_cases hs : s ∈ a
  · rw [Multiset.count_eq_zero_of_notMem (Multiset.disjoint_left.mp h hs), Nat.sub_zero]
  · rw [Multiset.count_eq_zero_of_notMem hs, Nat.zero_sub]

/-! ## The report on expectations of one id -/

/-- One expectation of an id on each of some spans, whatever the message. -/
def onSpans (id : String) (spans : List Span) : List Expectation :=
  spans.map fun s => ⟨id, .span s, none⟩

section Report

variable {id : String} {spans : List Span} {actual : List Diagnostic} {t : Text}

theorem getElem?_onSpans {i : Nat} {e : Expectation} :
    (onSpans id spans)[i]? = some e ↔ ∃ s, spans[i]? = some s ∧ e = ⟨id, .span s, none⟩ := by
  rw [onSpans, List.getElem?_map, Option.map_eq_some_iff]
  simp only [eq_comm]

/-- An expectation on a span asks for a diagnostic on exactly that span. -/
theorem matchesSpan_span {s s' : Span} : (Locator.span s).matchesSpan s' t = true ↔ s' = s :=
  decide_eq_true_iff

theorem wrongMessage_onSpans :
    (matchDiagnostics (onSpans id spans) actual t).wrongMessage = [] := by
  rw [List.eq_nil_iff_forall_not_mem]
  rintro ⟨i, j⟩ hp
  obtain ⟨howner, hunmet⟩ := mem_wrongMessage_iff.mp hp
  obtain ⟨e, d, he, hd, -⟩ := exists_of_owner? howner
  obtain ⟨s, -, rfl⟩ := getElem?_onSpans.mp he
  refine hunmet ((agreesAt_iff howner).mp ?_)
  rw [agreesAt_eq he hd]
  rfl

/-- The spans that have got no diagnostic, in their order. -/
def missingSpans (id : String) (spans : List Span) (actual : List Diagnostic) (t : Text) :
    List Span :=
  pick spans (matchDiagnostics (onSpans id spans) actual t).missing

/-- The diagnostics that no span has got, in their order. -/
def leftOver (id : String) (spans : List Span) (actual : List Diagnostic) (t : Text) :
    List Diagnostic :=
  pick actual (matchDiagnostics (onSpans id spans) actual t).unexpected

theorem missingSpans_sublist : (missingSpans id spans actual t).Sublist spans := by
  refine pick_sublist ?_
  rw [missing_eq, onSpans, List.length_map]
  exact List.filter_sublist

theorem leftOver_sublist : (leftOver id spans actual t).Sublist actual :=
  pick_sublist List.filter_sublist

/-- Pairs of indices whose spans agree pick the same spans on both sides. -/
theorem pick_fst_eq_map_pick_snd {pairs : List (Nat × Nat)}
    (h : ∀ p ∈ pairs, ∃ d, spans[p.1]? = some d.span ∧ actual[p.2]? = some d) :
    pick spans (pairs.map Prod.fst) = (pick actual (pairs.map Prod.snd)).map Diagnostic.span := by
  induction pairs with
  | nil => rfl
  | cons p pairs ih =>
    obtain ⟨d, hs, hd⟩ := h p List.mem_cons_self
    have hrest := ih fun q hq => h q (List.mem_cons_of_mem p hq)
    rw [pick, pick, List.map_cons, List.map_cons, List.filterMap_cons_some hs,
      List.filterMap_cons_some hd, List.map_cons]
    exact congrArg (d.span :: ·) hrest

theorem span_of_mem_matched {p : Nat × Nat}
    (hp : p ∈ (matchDiagnostics (onSpans id spans) actual t).matched) :
    ∃ d, spans[p.1]? = some d.span ∧ actual[p.2]? = some d := by
  obtain ⟨i, j⟩ := p
  obtain ⟨e, d, he, hd, -, hplace⟩ := exists_of_owner? (mem_matched_iff.mp hp).1
  obtain ⟨s, hs, rfl⟩ := getElem?_onSpans.mp he
  rw [matchesSpan_span] at hplace
  exact ⟨d, by rw [hplace, hs], hd⟩

/-- No span is both missing and left over. -/
theorem disjoint_missingSpans (hid : ∀ d ∈ actual, d.id = id) :
    Disjoint (missingSpans id spans actual t : Multiset Span)
      ((leftOver id spans actual t).map Diagnostic.span : List Span) := by
  rw [Multiset.disjoint_left]
  intro s hmissing hleft
  rw [Multiset.mem_coe] at hmissing hleft
  obtain ⟨i, hi, hs⟩ := mem_pick.mp hmissing
  obtain ⟨d, hd, rfl⟩ := List.mem_map.mp hleft
  obtain ⟨j, hj, hd⟩ := mem_pick.mp hd
  rw [missing_eq, List.mem_filter, List.mem_range, decide_eq_true_eq] at hi
  -- such a pair would be an edge between two free ends, and a largest matching leaves none
  refine notMem_locatedEdges_of_free hi.1 hi.2 (mem_unexpected_iff.mp hj).2 ?_
  refine mem_edgesOf.mpr ⟨_, d, getElem?_onSpans.mpr ⟨d.span, hs, rfl⟩, hd, ?_⟩
  exact locates_iff.mpr ⟨hid d (List.mem_of_getElem? hd), matchesSpan_span.mpr rfl⟩

/-- The spans that are matched, on the side of the expectations. -/
def matchedSpans (id : String) (spans : List Span) (actual : List Diagnostic) (t : Text) :
    List Span :=
  pick spans ((matchDiagnostics (onSpans id spans) actual t).matched.map Prod.fst)

theorem spans_perm :
    (matchedSpans id spans actual t ++ missingSpans id spans actual t).Perm spans := by
  have hall := expectations_perm (onSpans id spans) actual t
  rw [wrongMessage_onSpans, List.map_nil, List.append_nil, onSpans, List.length_map] at hall
  have hpicked := pick_perm (l := spans) hall
  rwa [pick_append, pick_range] at hpicked

theorem reported_perm :
    (matchedSpans id spans actual t ++ (leftOver id spans actual t).map Diagnostic.span).Perm
      (actual.map Diagnostic.span) := by
  have hall := diagnostics_perm (onSpans id spans) actual t
  -- the account is of diagnostics, while matched spans are picked on the side of the expectations
  rw [wrongMessage_onSpans, List.map_nil, List.append_nil] at hall
  have hpicked := (pick_perm (l := actual) hall).map Diagnostic.span
  rw [pick_append, pick_range, List.map_append] at hpicked
  rwa [matchedSpans, pick_fst_eq_map_pick_snd fun p hp => span_of_mem_matched hp]

theorem coe_spans (id : String) (spans : List Span) (actual : List Diagnostic) (t : Text) :
    (spans : Multiset Span) = matchedSpans id spans actual t + missingSpans id spans actual t :=
  (Multiset.coe_eq_coe.mpr spans_perm).symm

theorem coe_reported (id : String) (spans : List Span) (actual : List Diagnostic) (t : Text) :
    (actual.map Diagnostic.span : Multiset Span) = matchedSpans id spans actual t
      + ((leftOver id spans actual t).map Diagnostic.span : List Span) :=
  (Multiset.coe_eq_coe.mpr reported_perm).symm

/-- **A span is missing as often as it is expected more often than reported.** -/
theorem coe_missingSpans (hid : ∀ d ∈ actual, d.id = id) :
    (missingSpans id spans actual t : Multiset Span)
      = (spans : Multiset Span) - (actual.map Diagnostic.span : List Span) := by
  rw [coe_reported id spans actual t, coe_spans id spans actual t,
    add_sub_add_of_disjoint (disjoint_missingSpans hid)]

/-- **A span is left over as often as it is reported more often than expected.** -/
theorem coe_map_span_leftOver (hid : ∀ d ∈ actual, d.id = id) :
    ((leftOver id spans actual t).map Diagnostic.span : Multiset Span)
      = (actual.map Diagnostic.span : Multiset Span) - (spans : Multiset Span) := by
  rw [coe_reported id spans actual t, coe_spans id spans actual t,
    add_sub_add_of_disjoint (disjoint_missingSpans hid).symm]

/-- Nothing is missing and nothing left over exactly if the same spans are expected and reported,
each as often as the other way round. -/
theorem missingSpans_eq_nil_and_leftOver_eq_nil_iff (hid : ∀ d ∈ actual, d.id = id) :
    missingSpans id spans actual t = [] ∧ leftOver id spans actual t = [] ↔
      (actual.map Diagnostic.span : Multiset Span) = (spans : Multiset Span) := by
  constructor
  · rintro ⟨hmissing, hleft⟩
    rw [coe_reported id spans actual t, coe_spans id spans actual t, hleft, hmissing, List.map_nil]
  · intro heq
    have hmissing := @coe_missingSpans id spans actual t hid
    have hleft := @coe_map_span_leftOver id spans actual t hid
    rw [heq, tsub_self, Multiset.coe_eq_zero] at hmissing hleft
    exact ⟨hmissing, List.map_eq_nil_iff.mp hleft⟩

/-! ## The failures -/

/-- The failures of a strict demand for one id: one for each missing span, and then one for each
diagnostic that is left over. -/
theorem failuresOf_onSpans (hid : ∀ d ∈ actual, d.id = id) (hspans : spans ≠ []) (file : String) :
    failuresOf (matchDiagnostics (onSpans id spans) actual t) (onSpans id spans) actual t true file
      = (missingSpans id spans actual t).map (fun s => missingFailure ⟨id, .span s, none⟩ t file)
        ++ (leftOver id spans actual t).map fun d => unexpectedFailure d t file := by
  have hmissing (indices : List Nat) :
      (indices.filterMap fun i => ((onSpans id spans)[i]?).map fun e => missingFailure e t file)
        = (pick spans indices).map fun s => missingFailure ⟨id, .span s, none⟩ t file := by
    rw [pick, List.map_filterMap]
    simp only [onSpans, List.getElem?_map, Option.map_map]
    rfl
  have hany : ∀ d ∈ actual, ((onSpans id spans).any fun e => e.id = d.id) = true := by
    intro d hd
    obtain ⟨s, hs⟩ := List.exists_mem_of_ne_nil spans hspans
    rw [List.any_eq_true]
    exact ⟨⟨id, .span s, none⟩, List.mem_map_of_mem hs, decide_eq_true (hid d hd).symm⟩
  have hleft (indices : List Nat) :
      (indices.filterMap fun j => (actual[j]?).bind fun d =>
          if (onSpans id spans).any fun e => e.id = d.id then some (unexpectedFailure d t file)
          else none)
        = (pick actual indices).map fun d => unexpectedFailure d t file := by
    rw [pick, List.map_filterMap]
    refine List.filterMap_congr fun j _ => ?_
    cases hd : actual[j]? with
    | none => rfl
    | some d => rw [Option.bind_some, if_pos (hany d (List.mem_of_getElem? hd)), Option.map_some]
  simp only [failuresOf, wrongMessage_onSpans, hmissing, if_true, hleft]
  rw [List.filterMap_nil, List.append_nil, missingSpans, leftOver]

end Report

end Assay.Matching
