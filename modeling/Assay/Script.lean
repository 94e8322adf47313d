import Assay.Compilation

/-!
# Scripted components

A scripted component does what a list of steps says, in their order: it gives items, and a step may
end it early. Scripts stand in for real components where a case is about the bench itself.
-/

namespace Assay

/-! ## Placeholders -/

/-- The text with every occurrence of `part` replaced; an empty `part` occurs nowhere. -/
def Text.replaceAll (part new : Text) : Text → Text
  | [] => []
  | c :: rest =>
    if _h : part ≠ [] ∧ part.isPrefixOf (c :: rest) then
      new ++ replaceAll part new ((c :: rest).drop part.length)
    else c :: replaceAll part new rest
termination_by t => t.length
decreasing_by
  · exact Markup.drop_length_lt _h.1 c rest
  · simp

namespace Script

/-- The text with the placeholders for a span filled in: where it starts, its length and the text
under it. -/
def fillSpan (s : Span) (t : Text) (written : Text) : Text :=
  let withStart := Text.replaceAll "$start".toList (toString s.start).toList written
  let withLength := Text.replaceAll "$length".toList (toString s.length).toList withStart
  Text.replaceAll "$text".toList (s.textOf t) withLength

/-! ## Analyzers -/

/-- Which tokens a step is about. What is not given does not matter. -/
structure TokenFilter where
  kind : Option String
  lexeme : Option Text
  /-- The lexeme is the value of an option, or another value if the option is not set. -/
  option : Option (String × Value)
  deriving Inhabited

/-- Whether a token passes the filter under some options. -/
def TokenFilter.admits (f : TokenFilter) (options : Options) (t : Token) : Bool :=
  (f.kind.all fun kind => t.kind.name = kind)
    && (f.lexeme.all fun lexeme => t.lexeme = lexeme)
    && (f.option.all fun (key, standard) =>
      (Value.lookup? key options).getD standard == .text (String.ofList t.lexeme))

/-- A step of an analyzer. -/
inductive AnalyzerStep where
  /-- Reports a diagnostic as it is written. -/
  | report (id message : String) (start length : Int) (severity : Option String)
  /-- Reports tokens under the rule with an index, which counts from the end where it is negative. -/
  | tokens (filter : TokenFilter) (rule : Int)
  /-- Reports the whole document with its name and ids. -/
  | document (id : String)
  /-- Reports the value of an option at the start of the text. -/
  | option (id key : String)
  | ends (ending : Ending)

/-- The diagnostic of a written report. -/
def written (id message : String) (start length : Int) (severity : Option String) :
    Except Fault Diagnostic := do
  let span ← (Span.ofParts start length).mapError .invalidSpan
  let severity ← match severity with
    | none => pure Severity.warning
    | some name => (Severity.ofName name).mapError .unknownSeverity
  return ⟨id, span, message, severity⟩

/-- The rule with an index, which counts from the end where it is negative. -/
def ruleAt? (rules : List Descriptor) (i : Int) : Option Descriptor :=
  if i < -rules.length then none
  else rules[(if i < 0 then rules.length + i else i).toNat]?

/-- The report of a token under the rule with an index. -/
def tokenReport (rules : List Descriptor) (rule : Int) (t : Token) :
    Except Fault (List Diagnostic) :=
  match ruleAt? rules rule with
  | none => .error (.foreign "IndexError" "tuple index out of range")
  | some descriptor =>
    ((descriptor.create t.span [.text (String.ofList t.lexeme)] none).mapError .template).map
      fun d => [d]

/-- What an analyzer does in one step. -/
def AnalyzerStep.perform (rules : List Descriptor) (context : AnalysisContext) :
    AnalyzerStep → Performance Diagnostic
  | .report id message start length severity =>
    .ofExcept ((written id message start length severity).map fun d => [d])
  | .tokens filter rule =>
    -- A report that cannot be made ends the analyzer after the reports before it.
    (context.tokens.filter (filter.admits context.options)).foldr
      (fun token rest => (Performance.ofExcept (tokenReport rules rule token)).andThen rest) .idle
  | .document id =>
    let d := context.document
    let message := d.name ++ "#" ++ toString d.id ++ "/" ++ toString d.projectId
    .give [⟨id, ⟨0, d.body.length⟩, message, .warning⟩]
  | .option id key =>
    let value := (Value.lookup? key context.options).getD .null
    .give [⟨id, ⟨0, 0⟩, value.toJson, .warning⟩]
  | .ends ending => .ends ending

/-- Does steps one after the other. -/
def performAll {σ α : Type} (perform : σ → Performance α) (steps : List σ) : Performance α :=
  steps.foldr (fun step rest => (perform step).andThen rest) .idle

/-- The analyzer that follows steps. -/
def analyzer (name : String) (mode : Mode) (rules : List Descriptor) (steps : List AnalyzerStep) :
    Analyzer where
  name := name
  mode := mode
  rules := rules
  callback context := performAll (AnalyzerStep.perform rules context) steps

/-! ## Providers of actions -/

/-- Where an edit of a scripted action goes. -/
inductive EditPlace where
  | span
  | start
  | stop
  /-- Deletes the span. -/
  | delete
  | bounds (start length : Int)

/-- A step of a provider of actions. -/
inductive ActionStep where
  | action (title : Text) (edits : List (EditPlace × Text)) (key : Option String)
  /-- An action whose application raises a fault. -/
  | failing (title : Text) (key : Option String) (fault : Fault)
  /-- An action whose application gives a text. -/
  | fixed (title : Text) (text : Text) (key : Option String)
  | ends (ending : Ending)

/-- The edit of a scripted action on a selected span. -/
def editAt (s : Span) (t : Text) (place : EditPlace) (newText : Text) : Except Fault Edit :=
  let filled := fillSpan s t newText
  match place with
  | .span => .ok ⟨s, filled⟩
  | .start => .ok ⟨⟨s.start, 0⟩, filled⟩
  | .stop => .ok ⟨⟨s.stop, 0⟩, filled⟩
  | .delete => .ok (.delete s)
  | .bounds start length =>
    ((Span.ofParts start length).mapError .invalidSpan).map fun bounds => ⟨bounds, filled⟩

/-- What a provider does in one step for a span of a text. -/
def ActionStep.perform (s : Span) (t : Text) : ActionStep → Performance Action
  | .action title edits key =>
    .ofExcept do
      let edits ← edits.mapM fun (place, newText) => editAt s t place newText
      return [Action.ofEdits (String.ofList (fillSpan s t title)) t edits key]
  | .failing title key fault =>
    .give [⟨String.ofList (fillSpan s t title), key, .error fault⟩]
  | .fixed title text key => .give [⟨String.ofList (fillSpan s t title), key, .ok text⟩]
  | .ends ending => .ends ending

/-- The fix provider that follows steps. -/
def fixProvider (name : String) (mode : Mode) (fixable : List String) (steps : List ActionStep) :
    FixProvider where
  name := name
  mode := mode
  fixable := fixable
  callback context :=
    performAll (ActionStep.perform context.diagnostic.span context.document.body) steps

/-- The refactoring provider that follows steps. -/
def refactoringProvider (name : String) (mode : Mode) (steps : List ActionStep) :
    RefactoringProvider where
  name := name
  mode := mode
  callback context := performAll (ActionStep.perform context.span context.document.body) steps

/-! ## Completion providers -/

/-- A step of a completion provider. -/
inductive CompletionStep where
  /-- An item whose label may name the position of the caret. -/
  | item (label : Text) (kind : String) (detail : Option String)
  /-- An item with the text before the caret. -/
  | before
  /-- Items with the tokens of a kind. -/
  | tokens (kind : String)
  | ends (ending : Ending)

/-- The text before a caret; a caret before the text counts from its end. -/
def textBefore (t : Text) (position : Int) : Text :=
  if position < 0 then t.take (t.length + position).toNat else t.take position.toNat

/-- What a completion provider does in one step. -/
def CompletionStep.perform (context : CompletionContext) :
    CompletionStep → Performance CompletionItem
  | .item label kind detail =>
    let filled := Text.replaceAll "$position".toList (toString context.position).toList label
    .give [⟨String.ofList filled, kind, detail⟩]
  | .before =>
    .give [⟨String.ofList (textBefore context.document.body context.position), "", none⟩]
  | .tokens kind =>
    .give ((context.tokens.filter fun t => t.kind.name = kind).map fun t =>
      ⟨String.ofList t.lexeme, t.kind.name, none⟩)
  | .ends ending => .ends ending

/-- The completion provider that follows steps. -/
def completionProvider (name : String) (mode : Mode) (steps : List CompletionStep) :
    CompletionProvider where
  name := name
  mode := mode
  callback context := performAll (CompletionStep.perform context) steps

/-! ## Engines -/

/-- The engine with parts of its work replaced: its name, what compiling raises, what it finds in
the document or raises while it looks, and what it adds to the reports of analyzers. -/
def engine (name : String) (refusal : Option Fault)
    (ownDiagnostics : Option (Outcome (List Diagnostic))) (extra : List Diagnostic) : Engine where
  name := name
  compile document project options :=
    match refusal with
    | some f => .raised f
    | none => do
      let c ← Engine.inProcess.compile document project options
      return { c with
        ownDiagnostics := (ownDiagnostics.getD c.ownDiagnostics).mapFault Fault.leaveCoroutine
        extraDiagnostics := extra }

end Script

end Assay
