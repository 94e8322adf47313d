import Assay.Compilation

/-!
# Runs

A run puts a text into a project of a workspace of its own, compiles it, and carries out one check
within a time limit. However the check ends, the compilation is closed and the workspace disposed of
afterwards (`Outcome.leave`); the record of a run shows both, and which callbacks were called.

The order of a run decides which of several faults is seen: project, document, compilation, a limit
that is over before anything starts, errors in the document, and then the check.
-/

namespace Assay

/-! ## Checks -/

/-- What a run is about. -/
inductive Check where
  | diagnostics (analyzers : List Analyzer)
  /-- The fixes for diagnostics with an id, at a place if one is given. -/
  | fixes (provider : FixProvider) (analyzers : List Analyzer) (id : String)
      (locator : Option Locator)
  | refactorings (provider : RefactoringProvider) (span : Span)
  | completions (provider : CompletionProvider) (position : Int)

/-- The kind of a check. -/
def Check.kind : Check → RunKind
  | .diagnostics _ => .diagnostics
  | .fixes .. => .codeFix
  | .refactorings .. => .refactoring
  | .completions .. => .completion

/-- What a run finds. -/
structure Findings where
  text : Text
  diagnostics : List Diagnostic
  /-- The diagnostics that a fix provider was asked about. -/
  fixed : List Diagnostic
  actions : List Action
  completions : List CompletionItem

/-- Whether fixes are asked for a diagnostic. -/
def isTarget (id : String) (locator : Option Locator) (t : Text) (d : Diagnostic) : Bool :=
  d.id = id && locator.all fun l => l.matchesSpan d.span t

/-- Carries out a check on a compilation. -/
def Check.carryOut (check : Check) (c : Compilation) (options : Options) : Traced Findings :=
  let t := c.document.body
  match check with
  | .diagnostics analyzers => do
    let reported ← c.analyze analyzers options
    return ⟨t, reported, [], [], []⟩
  | .fixes provider analyzers id locator => do
    let reported ← c.analyze analyzers options
    let targets := reported.filter (isTarget id locator t)
    let actions ← c.fixesForAll provider targets
    return ⟨t, reported, targets, actions, []⟩
  | .refactorings provider span => do
    let actions ← c.refactoringsFor provider span
    return ⟨t, [], [], actions, []⟩
  | .completions provider position => do
    let items ← c.completionsAt provider position
    return ⟨t, [], [], [], items⟩

/-! ## Runs -/

/-- An engine with the settings under which it is used. -/
structure Runner where
  engine : Engine
  config : Config

/-- What is left of a run. -/
structure RunRecord where
  outcome : Outcome Findings
  /-- The calls of callbacks, in the order in which they were made. -/
  calls : List Call
  workspace : Workspace
  /-- The compilation, if there was one. -/
  compilation : Option Compilation
  /-- The id that is free after the run. -/
  next : Nat

/-- The errors that the engine finds in the document are a fault, if the settings say so. -/
def checkInput (config : Config) (c : Compilation) : Outcome Unit :=
  if config.failOnInputErrors then do
    let own ← c.ownDiagnostics
    let errors := own.filter Diagnostic.isError
    if errors.isEmpty then return () else .raised (.inputErrors errors)
  else .done ()

/-- The outcome of a run that is waited for until a limit passes. A computation that does not end is
cut off: a callback on a thread of its own is left behind, and a coroutine that waits is cancelled. A
coroutine that never gives way, and one that goes on when it is cancelled, cannot be cut off; they are
none of the endings of a callback (`Ending`). -/
def Outcome.within {α : Type} (limit : TimeLimit) (kind : RunKind) : Outcome α → Outcome α
  | .stalled => .raised (.timedOut limit kind)
  | outcome => outcome

namespace Runner

/-- Carries out the check without a time limit. What the engine raises is pinned on it. -/
def execute (r : Runner) (check : Check) (c : Compilation) : Traced Findings :=
  (do
    .lift (checkInput r.config c)
    check.carryOut c r.config.compilerOptions : Traced Findings).mapOutcome
      (.mapFault (Fault.pinOn r.engine.name))

/-- Carries out the check within a time limit. -/
def executeWithin (r : Runner) (limit : Option TimeLimit) (check : Check) (c : Compilation) :
    Traced Findings :=
  match limit with
  | none => r.execute check c
  | some limit =>
    match limit.fault? check.kind with
    | some f => .lift (.raised f)
    | none => (r.execute check c).mapOutcome (.within limit check.kind)

/-- What the settings say about the project. -/
def projectInfo (r : Runner) : ProjectInfo :=
  ⟨r.config.projectName, r.config.language, r.config.references⟩

/-- The workspace with the document of a run, or what keeps it from being made; in that case the
workspace is as far as it was made. -/
def setUp (r : Runner) (next : Nat) (t : Text) :
    Except Workspace.Error (Project × Document) × Workspace × Nat :=
  match (Workspace.fresh Workspace.standardKind).addProject next r.projectInfo with
  | .error e => (.error e, .fresh Workspace.standardKind, next)
  | .ok (p, w, next) =>
    match w.addDocument next p.id r.config.documentName (some t) with
    | .error e => (.error e, w, next)
    | .ok (d, w, next) => (.ok (p, d), w, next)

/-- What a run comes to inside its workspace. The compilation is closed on the way out. -/
def runInside (r : Runner) (next : Nat) (check : Check) (t : Text) (limit : Option TimeLimit) :
    RunRecord :=
  match r.setUp next t with
  | (.error e, w, next) => ⟨.raised (.workspace e), [], w, none, next⟩
  | (.ok (p, d), w, next) =>
    match (r.engine.compile d p r.config.compilerOptions).mapFault (Fault.pinOn r.engine.name) with
    | .done c =>
      let checked := r.executeWithin limit check c
      ⟨checked.outcome, checked.calls, w, some (checked.outcome.leave Compilation.close c), next⟩
    | .raised f => ⟨.raised f, [], w, none, next⟩
    | .stalled => ⟨.stalled, [], w, none, next⟩

/-- Runs a check on a text. A limit given here goes before that of the settings. The workspace is
disposed of on the way out. -/
def run (r : Runner) (next : Nat) (check : Check) (t : Text) (limit : Option TimeLimit) :
    RunRecord :=
  let record := r.runInside next check t (limit.or r.config.timeout)
  { record with workspace := record.outcome.leave Workspace.dispose record.workspace }

end Runner

end Assay
