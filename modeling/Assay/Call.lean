import Assay.Component

/-!
# Calls

Whatever works with components calls their callbacks, one after the other. `Traced` is a computation
of this kind: besides what it comes to, it tells which calls it has made. A call counts where it is
made, so the ones that a fault keeps from being made are not among them.
-/

namespace Assay

/-- A call of a callback: the component and what it is shown. -/
inductive Call where
  | analysis (a : Analyzer) (context : AnalysisContext)
  | fix (p : FixProvider) (context : FixContext)
  | refactoring (p : RefactoringProvider) (context : RefactoringContext)
  | completion (p : CompletionProvider) (context : CompletionContext)

/-- A computation that calls callbacks: the calls that it has made, in their order, and what it
comes to. -/
structure Traced (α : Type) where
  calls : List Call
  outcome : Outcome α

namespace Traced

variable {α β : Type}

/-- Goes on with the value, if there is one. -/
def bind (x : Traced α) (next : α → Traced β) : Traced β :=
  match x.outcome with
  | .done a => ⟨x.calls ++ (next a).calls, (next a).outcome⟩
  | .raised f => ⟨x.calls, .raised f⟩
  | .stalled => ⟨x.calls, .stalled⟩

instance : Monad Traced where
  pure a := ⟨[], .done a⟩
  bind := bind

/-- An outcome for which nothing is called. -/
def lift (o : Outcome α) : Traced α := ⟨[], o⟩

/-- The computation with its outcome changed. -/
def mapOutcome (change : Outcome α → Outcome β) (x : Traced α) : Traced β :=
  ⟨x.calls, change x.outcome⟩

end Traced

/-- Calls an analyzer. -/
def Analyzer.call (a : Analyzer) (context : AnalysisContext) : Traced (List Diagnostic) :=
  ⟨[.analysis a context], a.invoke context⟩

/-- Asks a provider for fixes. -/
def FixProvider.call (p : FixProvider) (context : FixContext) : Traced (List Action) :=
  ⟨[.fix p context], p.invoke context⟩

/-- Asks a provider for refactorings. -/
def RefactoringProvider.call (p : RefactoringProvider) (context : RefactoringContext) :
    Traced (List Action) :=
  ⟨[.refactoring p context], p.invoke context⟩

/-- Asks a provider for completions. -/
def CompletionProvider.call (p : CompletionProvider) (context : CompletionContext) :
    Traced (List CompletionItem) :=
  ⟨[.completion p context], p.invoke context⟩

end Assay
