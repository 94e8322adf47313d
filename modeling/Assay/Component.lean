import Assay.Action
import Assay.Config.Basic
import Assay.Token

/-!
# Components

What is put under test is a component: an analyzer, a provider of fixes or refactorings, or a
provider of completions. Each has a name and a callback. On a context a callback gives items, and
then it returns, raises a fault, or waits without an end. What it has given counts only if it returns.

A callback is a plain function, a coroutine, or a plain function that hands out a coroutine. Plain
functions run on a thread of their own, and what ends such a thread reaches the run only if it is an
ordinary fault; an abrupt one and the end of an iteration get lost there, and the run goes on
waiting. A coroutine cannot be left by the end of an iteration: that is turned into another fault.
-/

namespace Assay

/-! ## Callbacks -/

/-- How a callback is made. -/
inductive Mode where
  | plain
  | coroutine
  /-- A plain function that hands out a coroutine. -/
  | deferred
  deriving DecidableEq, Repr

/-- How a callback ends. -/
inductive Ending where
  | returned
  | raised (f : Fault)
  /-- It goes on forever, a plain function on its thread and a coroutine by waiting: it gives way to
  all others and ends when it is cancelled. A coroutine that holds on to the thread of the run, or
  that goes on when it is cancelled, is left out. -/
  | endless
  deriving Repr

/-- What a callback does on one context: the items that it gives and how it ends. -/
structure Performance (α : Type) where
  given : List α
  ending : Ending

namespace Performance

variable {α : Type}

/-- Gives nothing and returns. -/
def idle : Performance α := ⟨[], .returned⟩

/-- Gives some items and returns. -/
def give (items : List α) : Performance α := ⟨items, .returned⟩

/-- Gives nothing and ends. -/
def ends (ending : Ending) : Performance α := ⟨[], ending⟩

/-- One performance after another one, if that returns. -/
def andThen (first second : Performance α) : Performance α :=
  match first.ending with
  | .returned => ⟨first.given ++ second.given, second.ending⟩
  | _ => first

/-- Gives the items of a computation, or raises its fault. -/
def ofExcept : Except Fault (List α) → Performance α
  | .ok items => give items
  | .error f => ends (.raised f)

end Performance

/-- The type of the fault that ends an iteration. -/
def endOfIteration : String := "StopIteration"

namespace Fault

/-- Whether a fault is the end of an iteration, by the name of its type. Types that are derived from it
are left out. -/
def endsIteration : Fault → Bool
  | .foreign typeName _ => typeName = endOfIteration
  | _ => false

/-- Whether a fault gets lost where it ends the thread of a plain function. -/
def endsThread (f : Fault) : Bool := f.isAbrupt || f.endsIteration

/-- The fault as it leaves a coroutine, which the end of an iteration cannot. -/
def leaveCoroutine (f : Fault) : Fault :=
  if f.endsIteration then .foreign "RuntimeError" ("coroutine raised " ++ endOfIteration) else f

end Fault

/-- How the end of a callback reaches the run that waits for it. -/
def Mode.arrival (mode : Mode) : Ending → Ending
  | .returned => .returned
  | .endless => .endless
  | .raised f =>
    if mode = .plain then if f.endsThread then .endless else .raised f
    else .raised f.leaveCoroutine

/-- A component that gives items of one type on contexts of another one. -/
structure Component (κ α : Type) where
  name : String
  mode : Mode
  callback : κ → Performance α

/-- What comes of calling a component. A fault that is not the bench's own is pinned on it. -/
def Component.invoke {κ α : Type} (c : Component κ α) (context : κ) : Outcome (List α) :=
  let performance := c.callback context
  match c.mode.arrival performance.ending with
  | .returned => .done performance.given
  | .raised f => .raised (f.pinOn c.name)
  | .endless => .stalled

/-! ## Kinds of components -/

/-- What an analyzer sees. -/
structure AnalysisContext where
  document : Document
  tokens : List Token
  options : Options

/-- The text of a document. -/
def Document.body (d : Document) : Text := d.text.getD []

/-- A component that reports diagnostics under the rules that it declares. -/
structure Analyzer extends Component AnalysisContext Diagnostic where
  rules : List Descriptor

/-- Whether an analyzer declares an id. -/
def Analyzer.declares (a : Analyzer) (id : String) : Bool := a.rules.any fun r => r.id = id

/-- What a fix provider sees for one diagnostic. -/
structure FixContext where
  document : Document
  tokens : List Token
  diagnostic : Diagnostic

/-- A component that offers actions for diagnostics with some ids. -/
structure FixProvider extends Component FixContext Action where
  fixable : List String

/-- What a refactoring provider sees for a selected span. -/
structure RefactoringContext where
  document : Document
  tokens : List Token
  span : Span

/-- A component that offers actions for a selected span. -/
abbrev RefactoringProvider := Component RefactoringContext Action

/-- What a completion provider sees at a caret. -/
structure CompletionContext where
  document : Document
  tokens : List Token
  position : Int

/-- A component that offers completions at a caret. -/
abbrev CompletionProvider := Component CompletionContext CompletionItem

end Assay
