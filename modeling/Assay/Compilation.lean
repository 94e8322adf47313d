import Assay.Call
import Assay.Lexeme

/-!
# Compilations

An engine compiles a document. The compilation holds the tokens of the document and runs components
on it, one after the other; the first one that fails ends the run. Closing it lets go of the tokens.

An analyzer must report under ids that it declares. That is checked once it has returned, before the
next one is called.
-/

namespace Assay

/-- A document that is compiled. -/
structure Compilation where
  document : Document
  project : Project
  tokens : List Token
  options : Options
  /-- What the engine itself has to say about the document. -/
  ownDiagnostics : Outcome (List Diagnostic)
  /-- What the engine adds to the reports of analyzers. -/
  extraDiagnostics : List Diagnostic
  closed : Bool

/-- A maker of compilations. -/
structure Engine where
  name : String
  compile : Document → Project → Options → Outcome Compilation

/-- The engine that cuts the document into tokens and reports lexical errors. -/
def Engine.inProcess : Engine where
  name := "in-process"
  compile document project options := .done
    { document, project, options
      tokens := tokenize document.body
      ownDiagnostics := .done (lexicalErrors document.body)
      extraDiagnostics := []
      closed := false }

namespace Compilation

/-- The first diagnostic under an id that the analyzer does not declare is a fault. -/
def checkDeclared (a : Analyzer) (reported : List Diagnostic) : Outcome Unit :=
  match reported.find? fun d => !a.declares d.id with
  | none => .done ()
  | some d => .raised (.undeclared a.name d.id)

/-- What one analyzer reports. -/
def runAnalyzer (c : Compilation) (options : Options) (a : Analyzer) :
    Traced (List Diagnostic) := do
  let reported ← a.call ⟨c.document, c.tokens, options⟩
  .lift (checkDeclared a reported)
  return reported

/-- What analyzers report, one after the other. -/
def runEach (c : Compilation) (options : Options) : List Analyzer → Traced (List Diagnostic)
  | [] => pure []
  | a :: rest => do
    let reported ← c.runAnalyzer options a
    let more ← c.runEach options rest
    return reported ++ more

/-- The options of the compilation with others laid over them. -/
def mergedOptions (c : Compilation) (options : Options) : Options :=
  options.foldl (fun merged (k, v) => Value.insertEntry k v merged) c.options

/-- What analyzers and the engine report under ids that some analyzer declares. -/
def analyze (c : Compilation) (analyzers : List Analyzer) (options : Options) :
    Traced (List Diagnostic) := do
  let reported ← c.runEach (c.mergedOptions options) analyzers
  return (reported ++ c.extraDiagnostics).filter fun d => analyzers.any fun a => a.declares d.id

/-- What comes of the analysis. -/
def analyzerDiagnostics (c : Compilation) (analyzers : List Analyzer) (options : Options) :
    Outcome (List Diagnostic) :=
  (c.analyze analyzers options).outcome

/-- What the engine has to say, and what the analyzers report. -/
def allDiagnostics (c : Compilation) (analyzers : List Analyzer) (options : Options) :
    Outcome (List Diagnostic) := do
  let own ← c.ownDiagnostics
  let reported ← c.analyzerDiagnostics analyzers options
  return own ++ reported

/-- The actions that a provider offers for a diagnostic; it is asked only about the ids that it can
fix. -/
def fixesFor (c : Compilation) (p : FixProvider) (d : Diagnostic) : Traced (List Action) :=
  if d.id ∈ p.fixable then p.call ⟨c.document, c.tokens, d⟩ else pure []

/-- The actions that a provider offers for diagnostics, one after the other. -/
def fixesForAll (c : Compilation) (p : FixProvider) : List Diagnostic → Traced (List Action)
  | [] => pure []
  | d :: rest => do
    let actions ← c.fixesFor p d
    let more ← c.fixesForAll p rest
    return actions ++ more

/-- The actions that a provider offers for a span. -/
def refactoringsFor (c : Compilation) (p : RefactoringProvider) (s : Span) :
    Traced (List Action) :=
  p.call ⟨c.document, c.tokens, s⟩

/-- The completions that a provider offers at a caret. -/
def completionsAt (c : Compilation) (p : CompletionProvider) (position : Int) :
    Traced (List CompletionItem) :=
  p.call ⟨c.document, c.tokens, position⟩

/-- Lets go of the tokens; a second time nothing is left. -/
def close (c : Compilation) : Compilation :=
  if c.closed then c else { c with tokens := [], closed := true }

theorem close_closed (c : Compilation) : c.close.closed = true := by
  unfold close
  split <;> simp_all

end Compilation

end Assay
