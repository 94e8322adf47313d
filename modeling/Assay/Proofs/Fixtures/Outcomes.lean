import Assay.Proofs.Fixtures.Fixes

/-!
# What assertions come to

A test case makes an assertion, and whatever is wrong reaches it as a fault. Most faults are of the
bench's own kinds; what else a component raises is pinned on it, up to the abrupt faults, which are
nobody's. So an assertion ends with such a fault only (`Assertion.behaves_make`), unless it asks for
a line that there cannot be, or its settings are none that a run could be set up with.

`Outcome.RaisesOnly` says of a computation which faults it may end with. It goes through every step of
an assertion, so each step is looked at on its own. Whether a computation ends at all is another
question: a component may go on forever.
-/

namespace Assay

/-! ## Faults -/

namespace Fault

/-- A fault that a case may end with: one of the bench's own kinds, or an abrupt one. -/
def IsProper (f : Fault) : Prop := f.isOwn = true ∨ f.isAbrupt = true

theorem isProper_pinOn (name : String) (f : Fault) : (f.pinOn name).IsProper := by
  unfold pinOn
  split
  · next h => exact ((Bool.or_eq_true ..).mp h).symm
  · exact Or.inl rfl

end Fault

/-! ## Computations -/

namespace Outcome

variable {α β : Type} {faults more : Fault → Prop}

/-- A computation ends with some faults at most. -/
def RaisesOnly (faults : Fault → Prop) (o : Outcome α) : Prop := ∀ f, o = .raised f → faults f

theorem RaisesOnly.mono {o : Outcome α} (h : o.RaisesOnly faults)
    (hmore : ∀ f, faults f → more f) : o.RaisesOnly more :=
  fun f hf => hmore f (h f hf)

theorem raisesOnly_done (a : α) : (done a).RaisesOnly faults := nofun

theorem raisesOnly_stalled : (stalled : Outcome α).RaisesOnly faults := nofun

theorem raisesOnly_raised {f : Fault} (h : faults f) : (raised f : Outcome α).RaisesOnly faults := by
  rintro _ ⟨⟩
  exact h

theorem RaisesOnly.bind {o : Outcome α} {next : α → Outcome β} (h : o.RaisesOnly faults)
    (hnext : ∀ a, (next a).RaisesOnly faults) : (o >>= next).RaisesOnly faults := by
  cases o with
  | done a => exact hnext a
  | raised f => exact raisesOnly_raised (h f rfl)
  | stalled => exact raisesOnly_stalled

theorem raisesOnly_ofExcept {ε : Type} {x : Except ε α} {fault : ε → Fault}
    (h : ∀ e, x = .error e → faults (fault e)) : (ofExcept fault x).RaisesOnly faults := by
  cases x with
  | ok a => exact raisesOnly_done a
  | error e => exact raisesOnly_raised (h e rfl)

theorem raisesOnly_ofFailures (failures : List String) :
    (ofFailures failures).RaisesOnly Fault.IsProper := by
  unfold ofFailures
  split
  · exact raisesOnly_done ()
  · exact raisesOnly_raised (Or.inl rfl)

/-- Behind a handler that pins faults on a component only proper ones are left. -/
theorem raisesOnly_mapFault_pinOn (o : Outcome α) (name : String) :
    (o.mapFault (Fault.pinOn name)).RaisesOnly Fault.IsProper := by
  cases o with
  | done a => exact raisesOnly_done a
  | raised f => exact raisesOnly_raised (Fault.isProper_pinOn name f)
  | stalled => exact raisesOnly_stalled

/-- A limit that passes is the bench's own to complain about. -/
theorem RaisesOnly.within {o : Outcome α} (h : o.RaisesOnly Fault.IsProper) (limit : TimeLimit)
    (kind : RunKind) : (o.within limit kind).RaisesOnly Fault.IsProper := by
  cases o with
  | done a => exact raisesOnly_done a
  | raised f => exact h
  | stalled => exact raisesOnly_raised (Or.inl rfl)

end Outcome

/-- An action is picked, applied and compared without other faults. -/
theorem raisesOnly_verifyAction (actions : List Action) (selector : Option Selector)
    (component : String) (expected : Text) :
    (verifyAction actions selector component expected).RaisesOnly Fault.IsProper := by
  refine (Outcome.raisesOnly_ofExcept fun e _ => Or.inl rfl).bind fun a => ?_
  refine Outcome.RaisesOnly.bind ?_ fun t => Outcome.raisesOnly_ofExcept fun f hf => ?_
  · unfold applyAction
    split
    · exact Outcome.raisesOnly_done _
    · exact Outcome.raisesOnly_raised (Fault.isProper_pinOn _ _)
  · unfold verifyTransformation at hf
    split at hf
    · cases hf
    · cases hf
      exact Or.inl rfl

/-! ## Settings -/

namespace Config

variable {c : Config CodeText}

/-- The delimiters of marked spans can be told from nothing and from each other. -/
structure TellsMarks (c : Config CodeText) : Prop where
  opening_ne_nil : c.openMarker ≠ []
  closing_ne_nil : c.closeMarker ≠ []
  distinct : c.openMarker ≠ c.closeMarker

/-- Project and document have names. -/
structure IsNamed (c : Config CodeText) : Prop where
  project : c.projectName ≠ []
  document : c.documentName ≠ []

theorem IsNamed.shown_project (h : c.IsNamed) : c.shown.projectName ≠ "" :=
  mt CodeText.toText_eq_empty_iff.mp h.project

theorem IsNamed.shown_document (h : c.IsNamed) : c.shown.documentName ≠ "" :=
  mt CodeText.toText_eq_empty_iff.mp h.document

/-- The time limit, if there is one, is a time, though it may be over. -/
def HasTime (c : Config CodeText) : Prop := ∀ l, c.timeout = some l → l.isTooGreat = false

/-- Runs can be set up and waited for. -/
structure CanRun (c : Config CodeText) : Prop extends c.IsNamed where
  inTime : c.HasTime

end Config

/-! ## Runs -/

/-- Only a limit that is no time is a fault that is none of the bench's own. -/
theorem TimeLimit.isProper_of_fault? {l : TimeLimit} (h : l.isTooGreat = false) {kind : RunKind}
    {f : Fault} (hf : l.fault? kind = some f) : f.IsProper := by
  simp only [fault?, h, Bool.false_eq_true, if_false] at hf
  split at hf
  · cases hf
    exact Or.inl rfl
  · cases hf

namespace Runner

variable {r : Runner}

theorem raisesOnly_executeWithin {limit : Option TimeLimit}
    (h : ∀ l, limit = some l → l.isTooGreat = false) (check : Check) (c : Compilation) :
    (r.executeWithin limit check c).outcome.RaisesOnly Fault.IsProper := by
  have hexecute : (r.execute check c).outcome.RaisesOnly Fault.IsProper :=
    Outcome.raisesOnly_mapFault_pinOn _ _
  unfold executeWithin
  split
  · exact hexecute
  · next l =>
    split
    · next f hf => exact Outcome.raisesOnly_raised (TimeLimit.isProper_of_fault? (h l rfl) hf)
    · exact hexecute.within l check.kind

/-- **A run that can be set up ends with proper faults only.** -/
theorem raisesOnly_run (hproject : r.config.projectName ≠ "")
    (hdocument : r.config.documentName ≠ "")
    (htime : ∀ l, r.config.timeout = some l → l.isTooGreat = false) (next : Nat) (check : Check)
    (t : Text) : (r.run next check t none).outcome.RaisesOnly Fault.IsProper := by
  have hset := r.setUp_of_named hproject hdocument next t
  simp only [run, runInside, hset, Option.none_or]
  have hcompile := Outcome.raisesOnly_mapFault_pinOn
    (r.engine.compile (r.document next t) (r.project next) r.config.compilerOptions) r.engine.name
  split
  · exact raisesOnly_executeWithin htime check _
  · next f hf => exact Outcome.raisesOnly_raised (hcompile f hf)
  · exact Outcome.raisesOnly_stalled

end Runner

/-! ## Sessions -/

namespace Session

variable {α β : Type} {faults more : Fault → Prop}

/-- A session ends with some faults at most, from every id on. -/
def RaisesOnly (faults : Fault → Prop) (s : Session α) : Prop :=
  ∀ next, (s next).1.RaisesOnly faults

theorem RaisesOnly.mono {s : Session α} (h : s.RaisesOnly faults) (hmore : ∀ f, faults f → more f) :
    s.RaisesOnly more :=
  fun next => (h next).mono hmore

theorem RaisesOnly.bind {s : Session α} {next : α → Session β} (h : s.RaisesOnly faults)
    (hnext : ∀ a, (next a).RaisesOnly faults) : (s >>= next).RaisesOnly faults := by
  intro id
  rw [fst_bind]
  exact (h id).bind fun a => hnext a _

theorem raisesOnly_pure (a : α) : (pure a : Session α).RaisesOnly faults :=
  fun _ => Outcome.raisesOnly_done a

theorem raisesOnly_lift {o : Outcome α} (h : o.RaisesOnly faults) : (lift o).RaisesOnly faults :=
  fun _ => h

theorem raisesOnly_fail {f : Fault} (h : faults f) : (fail f : Session α).RaisesOnly faults :=
  fun _ => Outcome.raisesOnly_raised h

/-- Nothing is wrong, or it is told what is. -/
theorem raisesOnly_unless (p : Prop) [Decidable p] (failures : List String) :
    (if p then pure () else fail (.unmet failures) : Session Unit).RaisesOnly Fault.IsProper := by
  split
  · exact raisesOnly_pure ()
  · exact raisesOnly_fail (Or.inl rfl)

end Session

namespace Bench

variable {b : Bench}

theorem raisesOnly_parse (h : b.config.TellsMarks) (marked : Text) :
    (b.parse marked).RaisesOnly Fault.IsProper :=
  Session.raisesOnly_lift (Outcome.raisesOnly_ofExcept fun _ he =>
    Or.inl (Markup.isOwn_of_parseCodes h.opening_ne_nil h.closing_ne_nil h.distinct he))

theorem raisesOnly_single (m : Markup.MarkedText) : (single m).RaisesOnly Fault.IsProper :=
  Session.raisesOnly_lift (Outcome.raisesOnly_ofExcept fun _ he =>
    Or.inl (Markup.isOwn_of_singleSpan he))

theorem raisesOnly_run (h : b.config.CanRun) (check : Check) (t : Text) :
    (b.run check t).RaisesOnly Fault.IsProper :=
  fun next => @Runner.raisesOnly_run b.runner h.shown_project h.shown_document h.inTime next check t

/-- An assertion about the only mark of a text ends as what is asserted of the mark. -/
theorem raisesOnly_parse_single (h : b.config.TellsMarks) {α : Type} (marked : Text)
    {next : Markup.MarkedText → Markup.MarkedSpan → Session α}
    (hnext : ∀ m s, (next m s).RaisesOnly Fault.IsProper) :
    (do let m ← b.parse marked; let s ← single m; next m s).RaisesOnly Fault.IsProper :=
  (raisesOnly_parse h marked).bind fun m => (raisesOnly_single m).bind (hnext m)

end Bench

/-! ## Assertions -/

/-- What a test case asserts: the components under test and what is said about them. -/
inductive Assertion where
  /-- Only asks for what is reported. -/
  | diagnostics (analyzers : List Analyzer) (t : Text)
  | hasDiagnostic (analyzers : List Analyzer) (marked : Text) (id : String)
      (message : Option String)
  | hasDiagnosticAtLine (analyzers : List Analyzer) (t : Text) (id : String) (line : Int)
      (message : Option String)
  | hasDiagnosticAtAllMarkers (analyzers : List Analyzer) (marked : Text) (id : String)
  | noDiagnostic (analyzers : List Analyzer) (marked : Text) (id : String)
  | noDiagnosticAtLine (analyzers : List Analyzer) (t : Text) (id : String) (line : Int)
  | noDiagnosticAtAllMarkers (analyzers : List Analyzer) (marked : Text) (id : String)
  | testCodeFix (provider : FixProvider) (analyzers : List Analyzer) (marked expected : Text)
      (id : String) (selector : Option Selector)
  | testCodeFixAtLine (provider : FixProvider) (analyzers : List Analyzer) (t expected : Text)
      (id : String) (line : Int) (selector : Option Selector)
  | noCodeFix (provider : FixProvider) (analyzers : List Analyzer) (marked : Text) (id : String)
  | testCodeRefactoring (provider : RefactoringProvider) (marked expected : Text)
      (selector : Option Selector)
  | noCodeRefactoring (provider : RefactoringProvider) (marked : Text)
  | testCompletion (provider : CompletionProvider) (marked : Text) (expected : List String)
  | noCompletion (provider : CompletionProvider) (marked : Text) (unexpected : List String)

namespace Assertion

/-- Makes an assertion with a fixture for its components. -/
def make (b : Bench) : Assertion → Session Unit
  | .diagnostics analyzers t => do
    let _ ← AnalyzerFixture.diagnostics ⟨b, analyzers⟩ t
  | .hasDiagnostic analyzers marked id message =>
    AnalyzerFixture.hasDiagnostic ⟨b, analyzers⟩ marked id message
  | .hasDiagnosticAtLine analyzers t id line message =>
    AnalyzerFixture.hasDiagnosticAtLine ⟨b, analyzers⟩ t id line message
  | .hasDiagnosticAtAllMarkers analyzers marked id =>
    AnalyzerFixture.hasDiagnosticAtAllMarkers ⟨b, analyzers⟩ marked id
  | .noDiagnostic analyzers marked id => AnalyzerFixture.noDiagnostic ⟨b, analyzers⟩ marked id
  | .noDiagnosticAtLine analyzers t id line =>
    AnalyzerFixture.noDiagnosticAtLine ⟨b, analyzers⟩ t id line
  | .noDiagnosticAtAllMarkers analyzers marked id =>
    AnalyzerFixture.noDiagnosticAtAllMarkers ⟨b, analyzers⟩ marked id
  | .testCodeFix provider analyzers marked expected id selector =>
    FixFixture.testCodeFix ⟨b, provider, analyzers⟩ marked expected id selector
  | .testCodeFixAtLine provider analyzers t expected id line selector =>
    FixFixture.testCodeFixAtLine ⟨b, provider, analyzers⟩ t expected id line selector
  | .noCodeFix provider analyzers marked id =>
    FixFixture.noCodeFix ⟨b, provider, analyzers⟩ marked id
  | .testCodeRefactoring provider marked expected selector =>
    RefactoringFixture.testCodeRefactoring ⟨b, provider⟩ marked expected selector
  | .noCodeRefactoring provider marked => RefactoringFixture.noCodeRefactoring ⟨b, provider⟩ marked
  | .testCompletion provider marked expected =>
    CompletionFixture.testCompletion ⟨b, provider⟩ marked expected
  | .noCompletion provider marked unexpected =>
    CompletionFixture.noCompletion ⟨b, provider⟩ marked unexpected

/-- A line is asked for that there cannot be. -/
def IsOffLines : Assertion → Prop
  | .hasDiagnosticAtLine _ _ _ line _ => line < 1
  | _ => False

/-- A fault that an assertion may end with. -/
def MayFail (a : Assertion) (f : Fault) : Prop :=
  f.IsProper ∨ (a.IsOffLines ∧ ∃ e, f = .target e)

end Assertion

/-- Only a line that there cannot be is no target. -/
theorem Expectation.lt_one_of_atTarget {id : String} {line : Int} {message : Option String}
    {e : Target.Error} (h : atTarget id (.line line) message = .error e) : line < 1 := by
  by_contra hline
  simp [atTarget, Locator.ofTarget, hline, Except.map] at h

section Steps

variable {b : Bench} (h : b.config.CanRun)
include h

theorem AnalyzerFixture.raisesOnly_diagnosticsOf (analyzers : List Analyzer) (t : Text)
    (id : String) :
    (AnalyzerFixture.diagnosticsOf ⟨b, analyzers⟩ t id).RaisesOnly Fault.IsProper :=
  ((Bench.raisesOnly_run h _ t).bind fun _ => Session.raisesOnly_pure _).bind fun _ =>
    Session.raisesOnly_pure _

theorem AnalyzerFixture.raisesOnly_requirePresence (analyzers : List Analyzer) (t : Text)
    (id : String) (expected : List Expectation) (strict : Bool) :
    (AnalyzerFixture.requirePresence ⟨b, analyzers⟩ t id expected strict).RaisesOnly
      Fault.IsProper :=
  (raisesOnly_diagnosticsOf h analyzers t id).bind fun _ =>
    Session.raisesOnly_lift (Outcome.raisesOnly_ofFailures _)

theorem AnalyzerFixture.raisesOnly_requireAbsence (analyzers : List Analyzer) (t : Text)
    (id : String) (locators : List Locator) :
    (AnalyzerFixture.requireAbsence ⟨b, analyzers⟩ t id locators).RaisesOnly Fault.IsProper :=
  (raisesOnly_diagnosticsOf h analyzers t id).bind fun _ =>
    Session.raisesOnly_lift (Outcome.raisesOnly_ofFailures _)

theorem FixFixture.raisesOnly_requireFix (provider : FixProvider) (analyzers : List Analyzer)
    (t expected : Text) (id : String) (l : Locator) (selector : Option Selector) :
    (FixFixture.requireFix ⟨b, provider, analyzers⟩ t expected id l selector).RaisesOnly
      Fault.IsProper := by
  refine (Bench.raisesOnly_run h _ t).bind fun found => ?_
  have hverify := Session.raisesOnly_lift
    (raisesOnly_verifyAction found.actions selector provider.name expected)
  split
  · exact (Session.raisesOnly_fail (Or.inl rfl)).bind fun _ => hverify
  · exact hverify

theorem CompletionFixture.raisesOnly_labelsAt (hmarks : b.config.TellsMarks)
    (provider : CompletionProvider) (marked : Text) :
    (CompletionFixture.labelsAt ⟨b, provider⟩ marked).RaisesOnly Fault.IsProper :=
  Bench.raisesOnly_parse_single hmarks marked fun m _ =>
    (Bench.raisesOnly_run h _ m.text).bind fun _ => Session.raisesOnly_pure _

/-- **Assertions end with proper faults only**, if a run can be set up and marks can be told. -/
theorem Assertion.raisesOnly_make (hmarks : b.config.TellsMarks) (a : Assertion) :
    (a.make b).RaisesOnly a.MayFail := by
  -- only the line of one assertion can be wrong, all others end with proper faults
  have hproper {s : Session Unit} (hs : s.RaisesOnly Fault.IsProper) : s.RaisesOnly a.MayFail :=
    hs.mono fun _ => Or.inl
  cases a with
  | diagnostics analyzers t =>
    exact hproper (((Bench.raisesOnly_run h _ t).bind fun _ => Session.raisesOnly_pure _).bind
      fun _ => Session.raisesOnly_pure _)
  | hasDiagnostic analyzers marked id message =>
    exact hproper (Bench.raisesOnly_parse_single hmarks marked fun m s =>
      AnalyzerFixture.raisesOnly_requirePresence h analyzers m.text id _ _)
  | hasDiagnosticAtLine analyzers t id line message =>
    have htarget : (Outcome.ofExcept .target (Expectation.atTarget id (.line line) message)).RaisesOnly
        (Assertion.hasDiagnosticAtLine analyzers t id line message).MayFail :=
      Outcome.raisesOnly_ofExcept fun e he => Or.inr ⟨Expectation.lt_one_of_atTarget he, e, rfl⟩
    exact (Session.raisesOnly_lift htarget).bind fun e =>
      hproper (AnalyzerFixture.raisesOnly_requirePresence h analyzers t id _ _)
  | hasDiagnosticAtAllMarkers analyzers marked id =>
    refine hproper ((Bench.raisesOnly_parse hmarks marked).bind fun m => ?_)
    have hpresence := AnalyzerFixture.raisesOnly_requirePresence h analyzers m.text id
      (m.spans.map fun s => ⟨id, .span s.span, none⟩) true
    split
    · exact (Session.raisesOnly_fail (Or.inl rfl)).bind fun _ => hpresence
    · exact hpresence
  | noDiagnostic analyzers marked id =>
    exact hproper (Bench.raisesOnly_parse_single hmarks marked fun m s =>
      AnalyzerFixture.raisesOnly_requireAbsence h analyzers m.text id _)
  | noDiagnosticAtLine analyzers t id line =>
    exact hproper (AnalyzerFixture.raisesOnly_requireAbsence h analyzers t id _)
  | noDiagnosticAtAllMarkers analyzers marked id =>
    exact hproper ((Bench.raisesOnly_parse hmarks marked).bind fun m =>
      AnalyzerFixture.raisesOnly_requireAbsence h analyzers m.text id _)
  | testCodeFix provider analyzers marked expected id selector =>
    exact hproper (Bench.raisesOnly_parse_single hmarks marked fun m s =>
      FixFixture.raisesOnly_requireFix h provider analyzers m.text expected id _ selector)
  | testCodeFixAtLine provider analyzers t expected id line selector =>
    exact hproper (FixFixture.raisesOnly_requireFix h provider analyzers t expected id _ selector)
  | noCodeFix provider analyzers marked id =>
    exact hproper (Bench.raisesOnly_parse_single hmarks marked fun m s =>
      (Bench.raisesOnly_run h _ m.text).bind fun found => Session.raisesOnly_unless _ _)
  | testCodeRefactoring provider marked expected selector =>
    exact hproper (Bench.raisesOnly_parse_single hmarks marked fun m s =>
      (Bench.raisesOnly_run h _ m.text).bind fun found =>
        Session.raisesOnly_lift (raisesOnly_verifyAction _ selector _ expected))
  | noCodeRefactoring provider marked =>
    exact hproper (Bench.raisesOnly_parse_single hmarks marked fun m s =>
      (Bench.raisesOnly_run h _ m.text).bind fun found => Session.raisesOnly_unless _ _)
  | testCompletion provider marked expected =>
    exact hproper ((CompletionFixture.raisesOnly_labelsAt h hmarks provider marked).bind
      fun (offered, place) => Session.raisesOnly_unless _ _)
  | noCompletion provider marked unexpected =>
    exact hproper ((CompletionFixture.raisesOnly_labelsAt h hmarks provider marked).bind
      fun (offered, place) => Session.raisesOnly_lift (Outcome.raisesOnly_ofFailures _))

end Steps

end Assay
