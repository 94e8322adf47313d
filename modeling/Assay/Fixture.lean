import Assay.Matching.Verdict
import Assay.Run

/-!
# Fixtures

A fixture is what test cases talk to: components, an engine and settings, and the assertions about
them. An assertion reads the marked text, runs the components on the clean text, and compares; it
comes to nothing, or to the fault that says what is wrong.

Ids are counted on from one assertion of a case to the next. `Session` carries the next free id
along, also past a fault.
-/

namespace Assay

/-! ## Sessions -/

/-- A computation that takes the next free id and gives the one that is free after it. -/
def Session (α : Type) : Type := Nat → Outcome α × Nat

namespace Session

variable {α β : Type}

/-- Goes on with the value, if there is one. -/
def bind (s : Session α) (next : α → Session β) : Session β := fun id =>
  match s id with
  | (.done a, id) => next a id
  | (.raised f, id) => (.raised f, id)
  | (.stalled, id) => (.stalled, id)

instance : Monad Session where
  pure a := fun id => (.done a, id)
  bind := bind

/-- An outcome for which no id is taken. -/
def lift (o : Outcome α) : Session α := fun id => (o, id)

/-- Raises a fault. -/
def fail (f : Fault) : Session α := lift (.raised f)

end Session

/-! ## Common ground -/

/-- What all fixtures have. -/
structure Bench where
  engine : Engine
  config : Config CodeText

namespace Bench

/-- The file that reports name. -/
def file (b : Bench) : String := b.config.shown.documentName

/-- The runner of the bench. Workspaces and reports show the names in the settings. -/
def runner (b : Bench) : Runner := ⟨b.engine, b.config.shown⟩

/-- The clean text and the marked spans of a marked text. -/
def parse (b : Bench) (marked : Text) : Session Markup.MarkedText :=
  .lift (.ofExcept .markup (Markup.parseCodes b.config.openMarker b.config.closeMarker marked))

/-- The only marked span. -/
def single (m : Markup.MarkedText) : Session Markup.MarkedSpan :=
  .lift (.ofExcept .markup m.singleSpan)

/-- Runs a check on a text. -/
def run (b : Bench) (check : Check) (t : Text) : Session Findings := fun id =>
  let record := b.runner.run id check t none
  (record.outcome, record.next)

/-- The place of a span in a text of the fixture. -/
def place (b : Bench) (t : Text) (s : Span) : String := (Location.ofSpan t s b.file).toText

end Bench

/-- The text that an action gives. What the action raises is pinned on the component and the
action. -/
def applyAction (a : Action) (component : String) : Outcome Text :=
  match a.result with
  | .ok t => .done t
  | .error f => .raised (f.pinOn (component ++ " (" ++ quoted a.title ++ ")"))

/-- Picks an action, applies it and compares the text that it gives with the expected one. -/
def verifyAction (actions : List Action) (selector : Option Selector) (component : String)
    (expected : Text) : Outcome Unit := do
  let a ← Outcome.ofExcept .selection (selectAction actions selector)
  let t ← applyAction a component
  Outcome.ofExcept id (verifyTransformation t expected)

/-- Titles in quotes, one after the other. -/
def quotedTitles (actions : List Action) : String :=
  ", ".intercalate (actions.map fun a => quoted a.title)

/-! ## Analyzers -/

/-- A fixture for analyzers. -/
structure AnalyzerFixture extends Bench where
  analyzers : List Analyzer

namespace AnalyzerFixture

/-- What the analyzers report on a text. -/
def diagnostics (f : AnalyzerFixture) (t : Text) : Session (List Diagnostic) := do
  let found ← f.run (.diagnostics f.analyzers) t
  return found.diagnostics

/-- What the analyzers report on a text under an id. -/
def diagnosticsOf (f : AnalyzerFixture) (t : Text) (id : String) : Session (List Diagnostic) := do
  let reported ← f.diagnostics t
  return reported.filter fun d => d.id = id

/-- The expectations are met by what is reported under an id. -/
def requirePresence (f : AnalyzerFixture) (t : Text) (id : String) (expected : List Expectation)
    (strict : Bool) : Session Unit := do
  let actual ← f.diagnosticsOf t id
  .lift (.ofFailures (presenceFailures expected actual t strict f.file))

/-- Nothing under an id touches the places. -/
def requireAbsence (f : AnalyzerFixture) (t : Text) (id : String) (locators : List Locator) :
    Session Unit := do
  let actual ← f.diagnosticsOf t id
  .lift (.ofFailures (absenceFailures id locators actual t f.file))

/-- A diagnostic is reported at the only marked span. -/
def hasDiagnostic (f : AnalyzerFixture) (marked : Text) (id : String) (message : Option String) :
    Session Unit := do
  let m ← f.parse marked
  let s ← Bench.single m
  f.requirePresence m.text id [⟨id, .span s.span, message⟩] false

/-- A diagnostic starts on a line. -/
def hasDiagnosticAtLine (f : AnalyzerFixture) (t : Text) (id : String) (line : Int)
    (message : Option String) : Session Unit := do
  let e ← .lift (.ofExcept .target (Expectation.atTarget id (.line line) message))
  f.requirePresence t id [e] false

/-- Every marked span has a diagnostic, and nothing else has one. -/
def hasDiagnosticAtAllMarkers (f : AnalyzerFixture) (marked : Text) (id : String) :
    Session Unit := do
  let m ← f.parse marked
  if m.spans.isEmpty then
    Session.fail (.markup (.noSpan f.config.openMarker.shown))
  f.requirePresence m.text id (m.spans.map fun s => ⟨id, .span s.span, none⟩) true

/-- No diagnostic touches the only marked span. -/
def noDiagnostic (f : AnalyzerFixture) (marked : Text) (id : String) : Session Unit := do
  let m ← f.parse marked
  let s ← Bench.single m
  f.requireAbsence m.text id [.span s.span]

/-- No diagnostic starts on a line. -/
def noDiagnosticAtLine (f : AnalyzerFixture) (t : Text) (id : String) (line : Int) :
    Session Unit :=
  f.requireAbsence t id [.line line]

/-- No diagnostic touches any marked span. -/
def noDiagnosticAtAllMarkers (f : AnalyzerFixture) (marked : Text) (id : String) :
    Session Unit := do
  let m ← f.parse marked
  f.requireAbsence m.text id (m.spans.map fun s => .span s.span)

end AnalyzerFixture

/-! ## Fixes -/

/-- The settings of cases about fixes: they may name analyzers to run besides those of the
fixture. -/
structure FixConfig extends Config CodeText where
  additionalAnalyzers : List Analyzer

/-- The settings that plain data describes. Data has the same keys as for other cases, and so it names
no analyzers. -/
def FixConfig.ofValue (v : Value) (room : Nat := Value.standardRoom) :
    Except Config.Error FixConfig :=
  (Config.ofValue v room).map fun c => ⟨c, []⟩

/-- A fixture for a fix provider, with the analyzers whose diagnostics it fixes. -/
structure FixFixture extends Bench where
  provider : FixProvider
  analyzers : List Analyzer

namespace FixFixture

/-- The fixture for a provider under settings; the analyzers that the settings name come last. -/
def ofConfig (engine : Engine) (config : FixConfig) (provider : FixProvider)
    (analyzers : List Analyzer) : FixFixture :=
  ⟨⟨engine, config.toConfig⟩, provider, analyzers ++ config.additionalAnalyzers⟩

/-- What was reported, one per line, without messages. -/
def listing (f : FixFixture) (t : Text) (reported : List Diagnostic) : String :=
  let lines := reported.map fun d => "  " ++ d.id ++ " at " ++ f.place t d.span
  "Reported diagnostics:\n"
    ++ "\n".intercalate (if lines.isEmpty then ["  (none)"] else lines)

/-- Asks the provider about the diagnostics with an id at a place. -/
def findFixes (f : FixFixture) (t : Text) (id : String) (l : Locator) : Session Findings :=
  f.run (.fixes f.provider f.analyzers id (some l)) t

/-- The fix for the diagnostic at a place gives the expected text. -/
def requireFix (f : FixFixture) (t expected : Text) (id : String) (l : Locator)
    (selector : Option Selector) : Session Unit := do
  let found ← f.findFixes t id l
  if found.fixed.isEmpty then
    Session.fail (.unmet
      ["Expected diagnostic " ++ id ++ " at " ++ l.describe t f.file
        ++ " to apply the fix to, but none was reported",
        f.listing t found.diagnostics])
  .lift (verifyAction found.actions selector f.provider.name expected)

/-- The fix for the diagnostic at the only marked span gives the expected text. -/
def testCodeFix (f : FixFixture) (marked expected : Text) (id : String)
    (selector : Option Selector) : Session Unit := do
  let m ← f.parse marked
  let s ← Bench.single m
  f.requireFix m.text expected id (.span s.span) selector

/-- The fix for the diagnostic on a line gives the expected text. -/
def testCodeFixAtLine (f : FixFixture) (t expected : Text) (id : String) (line : Int)
    (selector : Option Selector) : Session Unit :=
  f.requireFix t expected id (.line line) selector

/-- Nothing is offered for the diagnostic at the only marked span. -/
def noCodeFix (f : FixFixture) (marked : Text) (id : String) : Session Unit := do
  let m ← f.parse marked
  let s ← Bench.single m
  let l : Locator := .span s.span
  let found ← f.findFixes m.text id l
  if found.actions.isEmpty then return ()
  Session.fail (.unmet
    ["Expected no code fix for " ++ id ++ " at " ++ l.describe m.text f.file ++ ", but got "
      ++ quotedTitles found.actions])

end FixFixture

/-! ## Refactorings -/

/-- A fixture for a refactoring provider. -/
structure RefactoringFixture extends Bench where
  provider : RefactoringProvider

namespace RefactoringFixture

/-- The refactoring of the only marked span gives the expected text. -/
def testCodeRefactoring (f : RefactoringFixture) (marked expected : Text)
    (selector : Option Selector) : Session Unit := do
  let m ← f.parse marked
  let s ← Bench.single m
  let found ← f.run (.refactorings f.provider s.span) m.text
  .lift (verifyAction found.actions selector f.provider.name expected)

/-- Nothing is offered for the only marked span. -/
def noCodeRefactoring (f : RefactoringFixture) (marked : Text) : Session Unit := do
  let m ← f.parse marked
  let s ← Bench.single m
  let found ← f.run (.refactorings f.provider s.span) m.text
  if found.actions.isEmpty then return ()
  Session.fail (.unmet
    ["Expected no refactoring at " ++ f.place m.text s.span ++ ", but got "
      ++ quotedTitles found.actions])

end RefactoringFixture

/-! ## Completions -/

/-- A fixture for a completion provider. The caret is the start of the only marked span. -/
structure CompletionFixture extends Bench where
  provider : CompletionProvider

namespace CompletionFixture

/-- The labels that are offered at the caret, and its place. -/
def labelsAt (f : CompletionFixture) (marked : Text) : Session (List String × String) := do
  let m ← f.parse marked
  let s ← Bench.single m
  let found ← f.run (.completions f.provider s.start) m.text
  return (found.completions.map CompletionItem.label, f.place m.text s.span)

/-- All of the labels are offered. -/
def testCompletion (f : CompletionFixture) (marked : Text) (expected : List String) :
    Session Unit := do
  let (offered, place) ← f.labelsAt marked
  let missing := expected.filter fun label => label ∉ offered
  if missing.isEmpty then return ()
  Session.fail (.unmet
    (missing.map (fun label => "Completion " ++ quoted label ++ " was not offered at " ++ place)
      ++ ["Offered: " ++ quotedList offered]))

/-- None of the labels is offered. -/
def noCompletion (f : CompletionFixture) (marked : Text) (unexpected : List String) :
    Session Unit := do
  let (offered, place) ← f.labelsAt marked
  let present := unexpected.filter fun label => label ∈ offered
  .lift (.ofFailures (present.map fun label =>
    "Completion " ++ quoted label ++ " should not be offered at " ++ place))

end CompletionFixture

end Assay
