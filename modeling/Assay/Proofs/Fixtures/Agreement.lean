import Assay.Proofs.Fixtures.Fixes
import Assay.Proofs.Fixtures.Markers
import Assay.Proofs.Matching.Absence
import Assay.Proofs.Runs.Findings

/-!
# Cases about diagnostics and cases about fixes

Whether a diagnostic with an id is at a place is looked for in two ways: by matching an expectation
with what is reported, and by taking the targets of a fix run out of it. Both come to the same
question, which is `Locator.Finds`. So the assertion that a diagnostic is there passes exactly if a
case about its fix, on the same text, does not complain that it is missing
(`FixFixture.hasDiagnostic_iff_not_missesTarget`).

The two assertions run one after the other, and their documents have different ids. Components whose
reports are not up to that report alike in both runs (`AnalyzerFixture.ReportsAlike`) and offer alike
(`FixFixture.OffersAlike`); where the ids are the same, all components do.
-/

namespace Assay

/-- Where a diagnostic is found is up to ids and spans alone. -/
theorem Locator.finds_congr {l : Locator} {t : Text} {id : String} {ds again : List Diagnostic}
    (h : (again.map fun d => (d.id, d.span)) = ds.map fun d => (d.id, d.span)) :
    l.Finds t id again ↔ l.Finds t id ds := by
  have hplaces (ds : List Diagnostic) : l.Finds t id ds ↔
      ∃ p ∈ ds.map fun d => (d.id, d.span), p.1 = id ∧ l.matchesSpan p.2 t = true := by
    simp only [Finds, List.mem_map, exists_exists_and_eq_and]
  rw [hplaces, hplaces, h]

/-! ## The assertion on diagnostics -/

namespace AnalyzerFixture

variable {f : AnalyzerFixture} {t : Text} {next : Nat} {reported : List Diagnostic}

/-- From two ids on, the analyzers report alike on a text: as often, and under the same ids on the
same spans. Messages may tell the ids. -/
def ReportsAlike (f : AnalyzerFixture) (t : Text) (first second : Nat) : Prop :=
  ∀ reported, (f.diagnostics t first).1 = .done reported →
    ∃ again, (f.diagnostics t second).1 = .done again ∧
      (again.map fun d => (d.id, d.span)) = reported.map fun d => (d.id, d.span)

theorem fst_requirePresence_eq_done_iff (hrun : (f.diagnostics t next).1 = .done reported)
    {id : String} {l : Locator} :
    (f.requirePresence t id [⟨id, l, none⟩] false next).1 = .done () ↔ l.Finds t id reported := by
  rw [fst_requirePresence hrun, Outcome.ofFailures_eq_done_iff,
    Matching.presenceFailures_singleton_eq_nil_iff]
  constructor
  · rintro ⟨d, hd, hfits⟩
    obtain ⟨hid, hplace, -⟩ := Matching.fits_iff.mp hfits
    exact ⟨d, (List.mem_filter.mp hd).1, hid, hplace⟩
  · rintro ⟨d, hd, hid, hplace⟩
    exact ⟨d, List.mem_filter.mpr ⟨hd, decide_eq_true hid⟩,
      Matching.fits_iff.mpr ⟨hid, hplace, nofun⟩⟩

/-- Behind diagnostics of a text there is a run that comes to them. -/
theorem exists_found_of_diagnostics (hrun : (f.diagnostics t next).1 = .done reported) :
    ∃ found, (f.run (.diagnostics f.analyzers) t next).1 = .done found ∧
      found.diagnostics = reported := by
  obtain ⟨found, hfound, hreported⟩ := Session.exists_of_fst_bind hrun
  exact ⟨found, hfound, Outcome.done.inj hreported⟩

theorem hasDiagnostic_of_single {marked : Text} {m : Markup.MarkedText} {s : Markup.MarkedSpan}
    (hparsed : Markup.parseCodes f.config.openMarker f.config.closeMarker marked = .ok m)
    (hsingle : m.spans = [s]) (id : String) (message : Option String) :
    f.hasDiagnostic marked id message
      = f.requirePresence m.text id [⟨id, .span s.span, message⟩] false :=
  Bench.bind_parse_single hparsed hsingle fun m s =>
    f.requirePresence m.text id [⟨id, .span s.span, message⟩] false

theorem hasDiagnosticAtLine_of_pos {line : Int} (hline : 1 ≤ line) (t : Text) (id : String)
    (message : Option String) :
    f.hasDiagnosticAtLine t id line message
      = f.requirePresence t id [⟨id, .line line, message⟩] false := by
  have htarget : Expectation.atTarget id (.line line) message = .ok ⟨id, .line line, message⟩ := by
    rw [Expectation.atTarget, Locator.ofTarget, if_neg (by omega)]
    rfl
  rw [hasDiagnosticAtLine, htarget]
  rfl

end AnalyzerFixture

/-! ## Fix runs -/

/-- A provider raises nothing, and no action of it takes the verdict on itself: it is the bench that
finds an expectation unmet. -/
structure FixProvider.RaisesNothing (p : FixProvider) : Prop where
  callback : ∀ context f, (p.callback context).ending ≠ .raised f
  actions : ∀ context, ∀ a ∈ (p.callback context).given, ∀ failures,
    a.result ≠ .error (.unmet failures)

/-- The text of a compilation is that of the document that is compiled. -/
def Engine.KeepsText (e : Engine) : Prop :=
  ∀ d p options c, e.compile d p options = .done c → c.document.body = d.body

theorem Engine.inProcess_keepsText : Engine.inProcess.KeepsText := by
  intro d p options c h
  cases h
  rfl

namespace Call

/-- A provider that raises nothing succeeds, or does not answer. -/
theorem answer_fix_of_raisesNothing {p : FixProvider} (h : p.RaisesNothing) (context : FixContext) :
    (Call.fix p context).answer = .done () ∨ (Call.fix p context).answer = .stalled := by
  have hraises (f : Fault) : (Call.fix p context).ending ≠ .raised f := h.callback context f
  rw [answer_eq]
  cases hending : (Call.fix p context).ending with
  | returned => exact Or.inl rfl
  | raised f => exact absurd hending (hraises f)
  | endless => exact Or.inr rfl

end Call

namespace Runner

variable {r : Runner} {next : Nat} {t : Text} {limit : Option TimeLimit} {c : Compilation}

/-- Behind analyzers that succeed, a fix run comes to its findings, or is left waiting for the
provider. -/
theorem run_fixes_of_analyses (h : r.Starts next t limit c) {p : FixProvider}
    (hquiet : p.RaisesNothing) {analyzers : List Analyzer}
    (hanalyses : ∀ call ∈ c.analyses analyzers r.config.compilerOptions, call.Succeeds)
    (id : String) (locator : Option Locator) :
    let check := Check.fixes p analyzers id locator
    (r.run next check t limit).outcome = .done (check.findings c r.config.compilerOptions) ∨
      (r.run next check t limit).outcome
        = Outcome.stalled.awaited (limit.or r.config.timeout) .codeFix := by
  intro check
  rcases Traced.succeed_or_exists_first (check.calls c r.config.compilerOptions) with
    hall | ⟨before, call, after, hsplit, hbefore, hcall⟩
  · exact Or.inl (run_of_succeeds h hall).2
  -- the call that fails is no analyzer's, so it is one of the provider's
  have hmem : call ∈ check.calls c r.config.compilerOptions := by simp [hsplit]
  rw [Compilation.calls_fixes, List.mem_append] at hmem
  rcases hmem with hanalysis | hfix
  · exact absurd (hanalyses call hanalysis) hcall
  · obtain ⟨d, -, rfl⟩ := List.mem_map.mp hfix
    rcases Call.answer_fix_of_raisesNothing hquiet ⟨c.document, c.tokens, d⟩ with hdone | hstalled
    · exact absurd (Call.answer_eq_done_iff.mp hdone) hcall
    · exact Or.inr (run_of_stalled h hsplit hbefore hstalled).2

end Runner

/-- The actions of a fix run are the provider's. -/
theorem Check.exists_given_of_mem_actions {p : FixProvider} {analyzers : List Analyzer} {id : String}
    {locator : Option Locator} {c : Compilation} {options : Options} {a : Action}
    (h : a ∈ ((Check.fixes p analyzers id locator).findings c options).actions) :
    ∃ context, a ∈ (p.callback context).given := by
  rw [Compilation.offers_findings.actions, List.mem_flatMap] at h
  obtain ⟨d, -, ha⟩ := h
  split_ifs at ha
  · exact ⟨_, ha⟩
  · cases ha

/-! ## Verdicts on actions -/

theorem mem_of_picked {actions : List Action} {selector : Option Selector} {a : Action}
    (h : Picked actions selector a) : a ∈ actions := by
  cases selector with
  | none =>
    rw [Picked] at h
    simp [h]
  | some s =>
    obtain ⟨before, after, hsplit, -⟩ := h
    simp [hsplit]

theorem Fault.eq_unmet_of_pinOn {f : Fault} {name : String} {failures : List String}
    (h : f.pinOn name = .unmet failures) : f = .unmet failures := by
  unfold pinOn at h
  split_ifs at h
  exact h

/-- Verifying an action finds an expectation unmet only if the action does so itself. -/
theorem exists_unmet_of_verifyFails {actions : List Action} {selector : Option Selector}
    {component : String} {expected : Text} {failures : List String}
    (h : VerifyFails actions selector component expected (.unmet failures)) :
    ∃ a ∈ actions, a.result = .error (.unmet failures) := by
  generalize hfault : Fault.unmet failures = fault at h ⊢
  cases h with
  | selection => cases hfault
  | application hpicked hfailed =>
    have hraised := Fault.eq_unmet_of_pinOn hfault.symm
    exact ⟨_, mem_of_picked hpicked, by rw [hfailed, ← hfault, hraised]⟩
  | mismatch => cases hfault

theorem verifyAction_ne_unmet {actions : List Action}
    (h : ∀ a ∈ actions, ∀ failures, a.result ≠ .error (.unmet failures))
    (selector : Option Selector) (component : String) (expected : Text) (failures : List String) :
    verifyAction actions selector component expected ≠ .raised (.unmet failures) := by
  intro hunmet
  rcases exists_picked_or_verifyFails actions selector component expected with
    ⟨a, hpicked, happlied⟩ | ⟨fault, hfails⟩
  · rw [verifyAction_of_picked hpicked happlied] at hunmet
    cases hunmet
  · rw [verifyAction_of_verifyFails hfails] at hunmet
    cases hunmet
    obtain ⟨a, ha, hresult⟩ := exists_unmet_of_verifyFails hfails
    exact h a ha failures hresult

theorem ne_nil_of_verifyAction {actions : List Action} {selector : Option Selector}
    {component : String} {expected : Text}
    (h : verifyAction actions selector component expected = .done ()) : actions ≠ [] := by
  rcases exists_picked_or_verifyFails actions selector component expected with
    ⟨a, hpicked, -⟩ | ⟨fault, hfails⟩
  · exact List.ne_nil_of_mem (mem_of_picked hpicked)
  · rw [verifyAction_of_verifyFails hfails] at h
    cases h

namespace FixFixture

variable {f : FixFixture} {t marked expected : Text} {id : String} {l : Locator}
  {selector : Option Selector} {next first second : Nat} {reported : List Diagnostic}

/-- The fixture for the analyzers of a fixture for fixes. -/
def analyzing (f : FixFixture) : AnalyzerFixture := ⟨f.toBench, f.analyzers⟩

/-- A case complains that there is no diagnostic to apply the fix to. -/
def MissesTarget (f : FixFixture) (t : Text) (id : String) (l : Locator) (o : Outcome Unit) : Prop :=
  ∃ listing, o = .raised (.unmet
    ["Expected diagnostic " ++ id ++ " at " ++ l.describe t f.file
      ++ " to apply the fix to, but none was reported", listing])

/-- From two ids on, as many fixes are offered for the diagnostics with an id at a place. -/
def OffersAlike (f : FixFixture) (t : Text) (id : String) (l : Locator) (first second : Nat) :
    Prop :=
  ∀ found, (f.findFixes t id l first).1 = .done found →
    ∃ again, (f.findFixes t id l second).1 = .done again ∧
      again.actions.length = found.actions.length

/-! ## The two kinds of cases -/

section Targets

variable (hkeeps : f.engine.KeepsText) (hrun : (f.analyzing.diagnostics t next).1 = .done reported)

include hkeeps hrun

/-- Where the analyzers come to diagnostics, so do those of a fix run; a fix run is then without
targets exactly if nothing is found at the place. -/
theorem exists_starts_of_diagnostics (id : String) (l : Locator) :
    ∃ c, f.runner.Starts next t none c ∧
      (∀ call ∈ c.analyses f.analyzers f.runner.config.compilerOptions, call.Succeeds) ∧
      (((Check.fixes f.provider f.analyzers id (some l)).findings c
        f.runner.config.compilerOptions).fixed = [] ↔ ¬ l.Finds t id reported) := by
  obtain ⟨found, hfound, rfl⟩ := AnalyzerFixture.exists_found_of_diagnostics hrun
  obtain ⟨c, hstarts, hsucceed, rfl⟩ := Runner.succeeds_of_done hfound
  have hbody : c.document.body = t := hkeeps _ _ _ c hstarts.compiled
  refine ⟨c, hstarts, hsucceed, ?_⟩
  rw [← Locator.filter_isTarget_eq_nil_iff, ← hbody]
  rfl

theorem missesTarget_of_not_finds {id : String} {l : Locator} (hnone : ¬ l.Finds t id reported)
    (expected : Text) (selector : Option Selector) :
    f.MissesTarget t id l (f.requireFix t expected id l selector next).1 := by
  obtain ⟨c, hstarts, hsucceed, hfixed⟩ := exists_starts_of_diagnostics hkeeps hrun id l
  have hnil := hfixed.mpr hnone
  -- there is nothing to ask the provider about
  have hall : ∀ call ∈ (Check.fixes f.provider f.analyzers id (some l)).calls c
      f.runner.config.compilerOptions, call.Succeeds := by
    rw [Compilation.calls_fixes, hnil]
    simpa [Compilation.fixCalls] using hsucceed
  have hfound := (Runner.run_of_succeeds hstarts hall).2
  rw [fst_requireFix_of_found hfound, if_pos hnil]
  exact ⟨_, rfl⟩

theorem not_missesTarget_of_finds (hquiet : f.provider.RaisesNothing) {id : String} {l : Locator}
    (hsome : l.Finds t id reported) (expected : Text) (selector : Option Selector) :
    ¬ f.MissesTarget t id l (f.requireFix t expected id l selector next).1 := by
  obtain ⟨c, hstarts, hsucceed, hfixed⟩ := exists_starts_of_diagnostics hkeeps hrun id l
  rintro ⟨listing, hmisses⟩
  rcases Runner.run_fixes_of_analyses hstarts hquiet hsucceed id (some l) with hfound | hstalled
  · rw [fst_requireFix_of_found hfound, if_neg fun hnil => hfixed.mp hnil hsome] at hmisses
    refine verifyAction_ne_unmet (fun a ha failures => ?_) _ _ _ _ hmisses
    obtain ⟨context, hgiven⟩ := Check.exists_given_of_mem_actions ha
    exact hquiet.actions context a hgiven failures
  · -- the case waits for the provider, or gives it up when the limit has passed
    have hwaits : (f.findFixes t id l next).1
        = Outcome.stalled.awaited f.config.timeout .codeFix := hstalled
    rw [requireFix, Session.fst_bind, hwaits] at hmisses
    cases htimeout : f.config.timeout with
    | none =>
      rw [htimeout] at hmisses
      cases hmisses
    | some limit =>
      rw [htimeout] at hmisses
      cases hmisses

end Targets

/-- What a case about a fix finds missing at a place is what the assertion there finds missing. -/
theorem requirePresence_iff_not_missesTarget (hkeeps : f.engine.KeepsText)
    (hquiet : f.provider.RaisesNothing)
    (hrun : (f.analyzing.diagnostics t first).1 = .done reported)
    (halike : f.analyzing.ReportsAlike t first second) (expected : Text) (id : String) (l : Locator)
    (selector : Option Selector) :
    ((f.analyzing.requirePresence t id [⟨id, l, none⟩] false first).1 = .done () ↔
        l.Finds t id reported) ∧
      (l.Finds t id reported ↔
        ¬ f.MissesTarget t id l (f.requireFix t expected id l selector second).1) := by
  obtain ⟨again, hagain, hsame⟩ := halike reported hrun
  refine ⟨AnalyzerFixture.fst_requirePresence_eq_done_iff hrun, ?_⟩
  rw [← Locator.finds_congr hsame]
  constructor
  · exact fun hsome => not_missesTarget_of_finds hkeeps hagain hquiet hsome expected selector
  · intro hnot
    by_contra hnone
    exact hnot (missesTarget_of_not_finds hkeeps hagain hnone expected selector)

/-! ## Cases about fixes that are not on offer -/

theorem exists_reads_of_passes
    (h : (f.testCodeFix marked expected id selector next).1 = .done ()) :
    ∃ m s, f.Reads marked m s := by
  cases hparse : Markup.parseCodes f.config.openMarker f.config.closeMarker marked with
  | error e =>
    rw [testCodeFix_of_error (Or.inl hparse)] at h
    cases h
  | ok m =>
    cases hsingle : m.singleSpan with
    | error e =>
      rw [testCodeFix_of_error (Or.inr ⟨m, hparse, hsingle⟩)] at h
      cases h
    | ok s => exact ⟨m, s, hparse, Markup.MarkedText.singleSpan_eq_ok_iff.mp hsingle⟩

/-- A case about a fix passes only if a fix is offered. -/
theorem exists_offered_of_requireFix
    (h : (f.requireFix t expected id l selector next).1 = .done ()) :
    ∃ found, (f.findFixes t id l next).1 = .done found ∧ found.actions ≠ [] := by
  obtain ⟨found, hfound, -⟩ := Session.exists_of_fst_bind h
  rw [fst_requireFix_of_found hfound] at h
  split_ifs at h
  exact ⟨found, hfound, ne_nil_of_verifyAction h⟩

theorem exists_noCodeFix_eq_raised {m : Markup.MarkedText} {s : Markup.MarkedSpan}
    (hreads : f.Reads marked m s) {found : Findings}
    (hfound : (f.findFixes m.text id (.span s.span) next).1 = .done found)
    (hoffered : found.actions ≠ []) :
    ∃ failures, (f.noCodeFix marked id next).1 = .raised (.unmet failures) := by
  have hread : f.noCodeFix marked id = _ := Bench.bind_parse_single hreads.parsed hreads.single _
  rw [hread, Session.fst_bind_of_done hfound, if_neg (mt List.isEmpty_iff.mp hoffered)]
  exact ⟨_, rfl⟩

/-- **Cases about diagnostics and cases about fixes agree on what is at a place.** For a provider that
raises nothing, and analyzers that come to diagnostics and report alike in both runs: the assertion
that a diagnostic with an id is at the mark of a text passes exactly if it is found among these
diagnostics, and exactly if a case about a fix does not complain that there is none; and so on a
line. If a case about a fix passes, the assertion that nothing is offered at its mark fails. -/
theorem hasDiagnostic_iff_not_missesTarget (hkeeps : f.engine.KeepsText)
    (hquiet : f.provider.RaisesNothing) (id : String) (first second : Nat) :
    (∀ marked m s reported, f.Reads marked m s →
      (f.analyzing.diagnostics m.text first).1 = .done reported →
      f.analyzing.ReportsAlike m.text first second → ∀ expected selector,
        let place : Locator := .span s.span
        ((f.analyzing.hasDiagnostic marked id none first).1 = .done () ↔
          place.Finds m.text id reported) ∧
        (place.Finds m.text id reported ↔ ¬ f.MissesTarget m.text id place
          (f.testCodeFix marked expected id selector second).1)) ∧
    (∀ t (line : Int) reported, 1 ≤ line →
      (f.analyzing.diagnostics t first).1 = .done reported →
      f.analyzing.ReportsAlike t first second → ∀ expected selector,
        let place : Locator := .line line
        ((f.analyzing.hasDiagnosticAtLine t id line none first).1 = .done () ↔
          place.Finds t id reported) ∧
        (place.Finds t id reported ↔ ¬ f.MissesTarget t id place
          (f.testCodeFixAtLine t expected id line selector second).1)) ∧
    ∀ marked expected selector,
      (∀ m s, f.Reads marked m s → f.OffersAlike m.text id (.span s.span) first second) →
      (f.testCodeFix marked expected id selector first).1 = .done () →
        ∃ failures, (f.noCodeFix marked id second).1 = .raised (.unmet failures) := by
  refine ⟨fun marked m s reported hreads hrun halike expected selector => ?_,
    fun t line reported hline hrun halike expected selector => ?_,
    fun marked expected selector hoffers hpasses => ?_⟩
  · have hmark := AnalyzerFixture.hasDiagnostic_of_single (f := f.analyzing) hreads.parsed
      hreads.single id none
    rw [hmark, testCodeFix_of_reads hreads]
    exact requirePresence_iff_not_missesTarget hkeeps hquiet hrun halike expected id _ selector
  · rw [AnalyzerFixture.hasDiagnosticAtLine_of_pos hline]
    exact requirePresence_iff_not_missesTarget hkeeps hquiet hrun halike expected id _ selector
  · obtain ⟨m, s, hreads⟩ := exists_reads_of_passes hpasses
    rw [testCodeFix_of_reads hreads] at hpasses
    obtain ⟨found, hfound, hoffered⟩ := exists_offered_of_requireFix hpasses
    obtain ⟨again, hagain, hlength⟩ := hoffers m s hreads found hfound
    refine exists_noCodeFix_eq_raised hreads hagain ?_
    rw [← List.length_pos_iff] at hoffered ⊢
    omega

/-- The analyzer reports the document, with its ids in the message, and these are other ones in the
second run. -/
theorem hasDiagnostic_iff_not_missesTarget_whole_document :
    let analyzer := Script.analyzer "A" .plain [⟨"X", "", "", .warning⟩] [.document "X"]
    let provider := Script.fixProvider "P" .coroutine ["X"] [.fixed "Fix".toList ['b'] none]
    let f : FixFixture :=
      ⟨⟨.inProcess, ({ Config.standard with failOnInputErrors := false } : Config)⟩, provider,
        [analyzer]⟩
    let m : Markup.MarkedText := ⟨['a'], [⟨0, 1, 0⟩]⟩
    f.engine.KeepsText ∧ f.provider.RaisesNothing ∧ f.Reads "[|a|]".toList m ⟨0, 1, 0⟩ ∧
      f.analyzing.ReportsAlike ['a'] 0 2 ∧ f.OffersAlike ['a'] "X" (.span ⟨0, 1⟩) 0 2 ∧
      (f.analyzing.diagnostics ['a'] 0).1 ≠ (f.analyzing.diagnostics ['a'] 2).1 ∧
      (f.analyzing.hasDiagnostic "[|a|]".toList "X" none 0).1 = .done () ∧
      ¬ f.MissesTarget ['a'] "X" (.span ⟨0, 1⟩)
        (f.testCodeFix "[|a|]".toList ['b'] "X" none 2).1 ∧
      (f.analyzing.hasDiagnosticAtLine ['a'] "X" 2 none 0).1 ≠ .done () ∧
      f.MissesTarget ['a'] "X" (.line 2) (f.testCodeFixAtLine ['a'] ['b'] "X" 2 none 2).1 ∧
      ∃ failures, (f.noCodeFix "[|a|]".toList "X" 2).1 = .raised (.unmet failures) := by
  intro analyzer provider f m
  let reported (id project : Nat) : List Diagnostic :=
    [⟨"X", ⟨0, 1⟩, "Test.al" ++ "#" ++ toString id ++ "/" ++ toString project, .warning⟩]
  have hreads : f.Reads "[|a|]".toList m ⟨0, 1, 0⟩ := ⟨by decide +kernel, rfl⟩
  have hquiet : f.provider.RaisesNothing := by
    refine ⟨fun context fault h => ?_, fun context a ha failures h => ?_⟩
    · cases h
    · cases List.mem_singleton.mp ha
      cases h
  have hrun : (f.analyzing.diagnostics ['a'] 0).1 = .done (reported 1 0) := rfl
  have hagain : (f.analyzing.diagnostics ['a'] 2).1 = .done (reported 3 2) := rfl
  have halike : f.analyzing.ReportsAlike ['a'] 0 2 := by
    intro ds hds
    rw [hrun] at hds
    cases hds
    exact ⟨_, hagain, rfl⟩
  have hoffers : f.OffersAlike ['a'] "X" (.span ⟨0, 1⟩) 0 2 := by
    intro found hfound
    cases hfound
    exact ⟨_, rfl, rfl⟩
  have hpasses : (f.testCodeFix "[|a|]".toList ['b'] "X" none 0).1 = .done () := by
    rw [testCodeFix_of_reads hreads]
    rfl
  obtain ⟨hmark, hline, hnone⟩ :=
    hasDiagnostic_iff_not_missesTarget Engine.inProcess_keepsText hquiet "X" 0 2
  obtain ⟨hpresent, hfix⟩ := hmark _ m _ _ hreads hrun halike ['b'] none
  obtain ⟨habsent, hnofix⟩ := hline ['a'] 2 _ (by decide) hrun halike ['b'] none
  have hfinds : (Locator.span ⟨0, 1⟩).Finds ['a'] "X" (reported 1 0) :=
    ⟨_, List.mem_cons_self, rfl, rfl⟩
  have hlineless : ¬ (Locator.line 2).Finds ['a'] "X" (reported 1 0) := by
    rintro ⟨d, hd, -, hplace⟩
    cases List.mem_singleton.mp hd
    exact absurd hplace (by decide)
  refine ⟨Engine.inProcess_keepsText, hquiet, hreads, halike, hoffers, ?_, hpresent.mpr hfinds,
    hfix.mp hfinds, fun hdone => hlineless (habsent.mp hdone), ?_, ?_⟩
  · rw [hrun, hagain, Ne, Outcome.done.injEq]
    decide +kernel
  · exact not_not.mp (mt hnofix.mpr hlineless)
  · refine hnone _ ['b'] none (fun m' s' h => ?_) hpasses
    obtain ⟨rfl, rfl⟩ := hreads.unique h
    exact hoffers

end FixFixture

end Assay
