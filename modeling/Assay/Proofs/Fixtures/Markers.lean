import Assay.Proofs.Fixtures.Session
import Assay.Proofs.Markup.Delimiters
import Assay.Proofs.Matching.Spans
import Assay.Script

/-!
# Diagnostics at all marks

The assertion that the marked spans of a text are just where diagnostics with an id are reported.
Spans are counted: two marks on one place need two diagnostics there. The assertion passes exactly
if the marked spans and the reported ones are the same multiset, and else words both differences.
-/

namespace Assay

namespace Markup.MarkedText

/-- The places of the marks of a text. -/
def places (m : MarkedText) : List Span := m.spans.map MarkedSpan.span

end Markup.MarkedText

namespace AnalyzerFixture

open Matching

variable {f : AnalyzerFixture} {marked : Text} {m : Markup.MarkedText} {reported : List Diagnostic}
  {next : Nat}

/-- The diagnostics with an id among those that are reported. -/
def withId (reported : List Diagnostic) (id : String) : List Diagnostic :=
  reported.filter fun d => d.id = id

theorem id_of_mem_withId {id : String} : ∀ d ∈ withId reported id, d.id = id := by
  intro d hd
  exact of_decide_eq_true (List.mem_filter.mp hd).2

/-- What a demand on diagnostics with an id comes to. -/
theorem fst_requirePresence {t : Text} (hrun : (f.diagnostics t next).1 = .done reported)
    (id : String) (expected : List Expectation) (strict : Bool) :
    (f.requirePresence t id expected strict next).1
      = .ofFailures (presenceFailures expected (withId reported id) t strict f.file) := by
  have hactual : (f.diagnosticsOf t id next).1 = .done (withId reported id) := by
    rw [diagnosticsOf, Session.fst_bind_of_done hrun]
    rfl
  rw [requirePresence, Session.fst_bind_of_done hactual]
  rfl

theorem fst_hasDiagnosticAtAllMarkers
    (hparse : Markup.parseCodes f.config.openMarker f.config.closeMarker marked = .ok m)
    (hmarks : m.spans ≠ []) (hrun : (f.diagnostics m.text next).1 = .done reported) (id : String) :
    (f.hasDiagnosticAtAllMarkers marked id next).1
      = .ofFailures (presenceFailures (onSpans id m.places) (withId reported id) m.text true
          f.file) := by
  have hexpected : m.spans.map (fun s => (⟨id, .span s.span, none⟩ : Expectation))
      = onSpans id m.places := by
    rw [onSpans, Markup.MarkedText.places, List.map_map]
    rfl
  rw [hasDiagnosticAtAllMarkers, Session.fst_bind_of_done (Bench.fst_parse_of_ok hparse next),
    if_neg (by rwa [List.isEmpty_iff]), hexpected]
  exact fst_requirePresence hrun id _ true

/-- **The assertion at all marks counts spans.** It passes exactly if the diagnostics with the id are
on the marked spans, on each of them as often as it is marked. If not, it names the marks in excess,
then the diagnostics in excess, and lists what was reported under the id. Neither messages nor
diagnostics under another id matter. -/
theorem hasDiagnosticAtAllMarkers_counts_spans
    (hparse : Markup.parseCodes f.config.openMarker f.config.closeMarker marked = .ok m)
    (hmarks : m.spans ≠ []) (hrun : (f.diagnostics m.text next).1 = .done reported) (id : String) :
    let marks : Multiset Span := m.places
    let spans : Multiset Span := (withId reported id).map Diagnostic.span
    ((f.hasDiagnosticAtAllMarkers marked id next).1 = .done () ↔ spans = marks) ∧
      (spans ≠ marks → ∃ (missing : List Span) (unexpected : List Diagnostic),
        missing.Sublist m.places ∧ (missing : Multiset Span) = marks - spans ∧
        unexpected.Sublist (withId reported id) ∧
        (unexpected.map Diagnostic.span : Multiset Span) = spans - marks ∧
        (f.hasDiagnosticAtAllMarkers marked id next).1 = .raised (.unmet
          (missing.map (fun s => missingFailure ⟨id, .span s, none⟩ m.text f.file)
            ++ unexpected.map (fun d => unexpectedFailure d m.text f.file)
            ++ [listing (withId reported id) m.text f.file]))) := by
  intro marks spans
  have hid := @id_of_mem_withId reported id
  have hplaces : m.places ≠ [] := by
    rwa [Markup.MarkedText.places, Ne, List.map_eq_nil_iff]
  have hexcess := @missingSpans_eq_nil_and_leftOver_eq_nil_iff id m.places (withId reported id)
    m.text hid
  have hfailures := failuresOf_onSpans (t := m.text) hid hplaces f.file
  have hnone : failuresOf (matchDiagnostics (onSpans id m.places) (withId reported id) m.text)
        (onSpans id m.places) (withId reported id) m.text true f.file = [] ↔ spans = marks := by
    rw [hfailures, List.append_eq_nil_iff, List.map_eq_nil_iff, List.map_eq_nil_iff, hexcess]
  rw [fst_hasDiagnosticAtAllMarkers hparse hmarks hrun, presenceFailures]
  by_cases hsame : spans = marks
  · rw [if_pos (List.isEmpty_iff.mpr (hnone.mpr hsame))]
    exact ⟨⟨fun _ => hsame, fun _ => rfl⟩, fun hne => absurd hsame hne⟩
  · rw [if_neg fun hempty => hsame (hnone.mp (List.isEmpty_iff.mp hempty)), Outcome.ofFailures,
      if_neg (by simp), hfailures]
    refine ⟨⟨nofun, fun h => absurd h hsame⟩, fun _ => ?_⟩
    exact ⟨_, _, missingSpans_sublist, coe_missingSpans hid, leftOver_sublist,
      coe_map_span_leftOver hid, rfl⟩

/-- One span is reported twice where it is marked once, and an empty mark behind it has only a
diagnostic under another id. -/
theorem hasDiagnosticAtAllMarkers_counts_spans_twice :
    let analyzer := Script.analyzer "A" .plain [⟨"X", "", "", .warning⟩, ⟨"Y", "", "", .warning⟩]
      [.report "X" "m" 0 1 none, .report "X" "n" 0 1 none, .report "Y" "" 1 0 none]
    let f : AnalyzerFixture :=
      ⟨⟨.inProcess, ({ Config.standard with failOnInputErrors := false } : Config)⟩, [analyzer]⟩
    let reported : List Diagnostic := [⟨"X", ⟨0, 1⟩, "m", .warning⟩, ⟨"X", ⟨0, 1⟩, "n", .warning⟩,
      ⟨"Y", ⟨1, 0⟩, "", .warning⟩]
    Markup.parse "[|" "|]" "[|a|][||]".toList = .ok ⟨['a'], [⟨0, 1, 0⟩, ⟨1, 0, 1⟩]⟩ ∧
      (f.diagnostics ['a'] 0).1 = .done reported ∧
      ∃ (missing : List Span) (unexpected : List Diagnostic),
        (missing : Multiset Span) = {⟨1, 0⟩} ∧
        (unexpected.map Diagnostic.span : Multiset Span) = {⟨0, 1⟩} ∧
        (f.hasDiagnosticAtAllMarkers "[|a|][||]".toList "X" 0).1 = .raised (.unmet
          (missing.map (fun s => missingFailure ⟨"X", .span s, none⟩ ['a'] "Test.al")
            ++ unexpected.map (fun d => unexpectedFailure d ['a'] "Test.al")
            ++ [listing (withId reported "X") ['a'] "Test.al"])) := by
  intro analyzer f reported
  have hparse : Markup.parse "[|" "|]" "[|a|][||]".toList
      = .ok ⟨['a'], [⟨0, 1, 0⟩, ⟨1, 0, 1⟩]⟩ := by
    decide +kernel
  have hrun : (f.diagnostics ['a'] 0).1 = .done reported := rfl
  have hcounts := @hasDiagnosticAtAllMarkers_counts_spans f _ ⟨['a'], [⟨0, 1, 0⟩, ⟨1, 0, 1⟩]⟩ _ _
    ((Markup.parseCodes_ofString "[|" "|]" _).trans hparse) (List.cons_ne_nil _ _) hrun "X"
  obtain ⟨missing, unexpected, -, hmissing, -, hunexpected, hraised⟩ := hcounts.2 (by decide)
  refine ⟨hparse, hrun, missing, unexpected, hmissing.trans ?_, hunexpected.trans ?_, hraised⟩
  · decide
  · decide

end AnalyzerFixture

end Assay
